import Hexwire.Schema.Fault
import Hexwire.Schema.Kind
import Hexwire.Value.Scatter
import Hexwire.Value.Spelling

/-! # Rules for values

A rule says which values are valid. Rules on texts and mappings leave values of other kinds alone. A
value is checked against its rules in order, and the first that it breaks is reported with the place
of the value inside the whole.
-/

namespace Hexwire.Schema

/-- A rule. -/
inductive Rule where
  /-- The value is of one of several kinds. -/
  | kinds (kinds : List Kind)
  /-- The value is one of several. -/
  | among (values : List Value)
  /-- A text has at least so many characters. -/
  | longEnough (least : Nat)
  | all (rules : List Rule)
  /-- A mapping has entries under given keys only, each with a rule of its own. -/
  | fields (named : List (String × Rule))

/-- The keys that are none of the given names. -/
def unnamed (names : List String) (keys : List Value) : List Value :=
  keys.filter fun key => !names.any fun name => key.equals (.text name)

mutual

/-- What ends the check of a value that breaks a rule; what is said of it has the name of its place
in front. A truth value is no number, and keys that are not admitted are told only if all of them
can be spelled. -/
def Rule.stop? : Rule → String → Value → Option Stop
  | .kinds admitted, name, v =>
    let excluded : Bool := match v with
      | .bool _ => !admitted.contains .boolean
      | _ => false
    if Kind.anyAdmits false admitted v && !excluded then none
    else some (.complaint (name ++ " must be " ++ " or ".intercalate (admitted.map Kind.name)))
  | .among values, name, v =>
    if values.any fun other => v.equals other then none
    else some (.complaint (name ++ " must be one of " ++ (Value.list values).literal))
  | .longEnough least, name, v =>
    match v with
    | .text s =>
      if s.length < least then
        some (.complaint
          (name ++ " must be longer than or equal to " ++ toString least ++ " characters"))
      else none
    | _ => none
  | .all rules, name, v => Rule.firstStop? rules name v
  | .fields named, name, v =>
    match v with
    | .map entries =>
      match Rule.namedStop? named name entries with
      | some stop => some stop
      | none =>
        let names := named.map (·.1)
        let keys := entries.map (·.1)
        if (unnamed names keys).isEmpty then none
        else if Value.anyTooLong (unnamed names keys) then some (.failure Value.tooLong)
        else
          let shown := Value.set (unnamed names (Value.scattered keys))
          some (.complaint (name ++ " must not contain " ++ shown.literal ++ " properties"))
    | _ => none

/-- What ends the check of a value by the first of the rules that it breaks. -/
def Rule.firstStop? : List Rule → String → Value → Option Stop
  | [], _, _ => none
  | rule :: rest, name, v => (rule.stop? name v).or (Rule.firstStop? rest name v)

/-- What ends the check of the first named key whose value breaks its rule. -/
def Rule.namedStop? : List (String × Rule) → String → List (Value × Value) → Option Stop
  | [], _, _ => none
  | (key, rule) :: rest, name, entries =>
    let here := match Value.lookup? entries key with
      | some value => rule.stop? (name ++ "." ++ key) value
      | none => none
    here.or (Rule.namedStop? rest name entries)

end

end Hexwire.Schema
