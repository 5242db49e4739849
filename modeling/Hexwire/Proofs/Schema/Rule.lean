import Hexwire.Schema.Rule
import Mathlib.Logic.Basic

/-! # What rules accept

Which values a rule accepts is a matter of the rule and the value alone, of no order in which parts
are looked at and of no text (`Hexwire.Schema.Rule.Accepts`). The check of a value ends without a
word just where the rule accepts the value (`Hexwire.Schema.Rule.stop?_eq_none_iff`). Where it does
not, the check complains, unless a key that the rule does not name cannot be spelled
(`Hexwire.Schema.Rule.strange_of_failure`).
-/

namespace Hexwire

/-- Some item is too long to be written exactly if the search says so. -/
theorem Value.anyTooLong_eq_any (items : List Value) : anyTooLong items = items.any hasTooLong := by
  induction items with
  | nil => rfl
  | cons first rest ih => rw [anyTooLong, List.any_cons, ih]

/-- An item that is too long to be written is among the items. -/
theorem Value.exists_hasTooLong {items : List Value} (long : anyTooLong items) :
    ∃ item ∈ items, item.hasTooLong := by
  rw [anyTooLong_eq_any] at long
  exact List.any_eq_true.mp long

namespace Schema.Kind

variable {value : Value}

/-- What counts as a string is a text. -/
theorem text_of_admits (admits : string.admits false value) : ∃ text, value = .text text := by
  cases value with
  | text text => exact ⟨text, rfl⟩
  | _ => cases admits

/-- What counts as an integer is a number, whole or with a fraction. -/
theorem number_of_admits (admits : integer.admits false value) :
    (∃ n, value = .int n) ∨ ∃ x, value = .float x := by
  cases value with
  | int n => exact .inl ⟨n, rfl⟩
  | float x => exact .inr ⟨x, rfl⟩
  | _ => cases admits

/-- What counts as a boolean is a truth value. -/
theorem truth_of_admits (admits : boolean.admits false value) : ∃ b, value = .bool b := by
  cases value with
  | bool b => exact ⟨b, rfl⟩
  | _ => cases admits

/-- No kind but its own admits a truth value. -/
theorem anyAdmits_bool (strict : Bool) (admitted : List Kind) (b : Bool) :
    anyAdmits strict admitted (.bool b) = admitted.contains .boolean := by
  rw [anyAdmits, List.contains_eq_any_beq]
  congr
  funext kind
  cases kind <;> rfl

end Schema.Kind

namespace Schema.Rule

/-- **The values that a rule accepts.** -/
inductive Accepts : Rule → Value → Prop where
  | kinds {admitted : List Kind} {kind : Kind} {value : Value} (member : kind ∈ admitted)
    (admits : kind.admits false value) : Accepts (.kinds admitted) value
  | among {values : List Value} {other value : Value} (member : other ∈ values)
    (equal : value.equals other) : Accepts (.among values) value
  | longEnough {least : Nat} {value : Value}
    (long : ∀ text, value = .text text → least ≤ text.length) : Accepts (.longEnough least) value
  | all {rules : List Rule} {value : Value} (each : ∀ rule ∈ rules, Accepts rule value) :
    Accepts (.all rules) value
  /-- The values under the named keys are accepted, and there are no other keys. -/
  | fields {named : List (String × Rule)} {value : Value}
    (each : ∀ entries, value = .map entries → ∀ field ∈ named, ∀ item,
      Value.lookup? entries field.1 = some item → Accepts field.2 item)
    (known : ∀ entries, value = .map entries →
      unnamed (named.map (·.1)) (entries.map (·.1)) = []) :
    Accepts (.fields named) value

/-- A key of a mapping that a rule does not name: at the place that the rule is for, or at that of a
part of the rule. -/
inductive Strange : Rule → Value → Value → Prop where
  | here {named : List (String × Rule)} {entries : List (Value × Value)} {key : Value}
    (stray : key ∈ unnamed (named.map (·.1)) (entries.map (·.1))) :
    Strange (.fields named) (.map entries) key
  | part {rules : List Rule} {rule : Rule} {value key : Value} (member : rule ∈ rules)
    (strange : Strange rule value key) : Strange (.all rules) value key
  | field {named : List (String × Rule)} {field : String × Rule} {entries : List (Value × Value)}
    {item key : Value} (member : field ∈ named) (found : Value.lookup? entries field.1 = some item)
    (strange : Strange field.2 item key) : Strange (.fields named) (.map entries) key

section Strange

variable {value key : Value}

/-- A test of kinds finds no strange keys. -/
@[simp]
theorem not_strange_kinds (admitted : List Kind) : ¬ (kinds admitted).Strange value key :=
  fun strange => nomatch strange

/-- A test for several values finds no strange keys. -/
@[simp]
theorem not_strange_among (values : List Value) : ¬ (among values).Strange value key :=
  fun strange => nomatch strange

/-- A test of length finds no strange keys. -/
@[simp]
theorem not_strange_longEnough (least : Nat) : ¬ (longEnough least).Strange value key :=
  fun strange => nomatch strange

/-- A key is strange to several rules if it is to one of them. -/
@[simp]
theorem strange_all_iff (rules : List Rule) :
    (all rules).Strange value key ↔ ∃ rule ∈ rules, rule.Strange value key :=
  ⟨fun | .part member strange => ⟨_, member, strange⟩,
    fun ⟨_, member, strange⟩ => .part member strange⟩

/-- A key is strange to fields if it is none of their names, or strange to the rule for one of them.
-/
@[simp]
theorem strange_fields_iff (named : List (String × Rule)) (entries : List (Value × Value)) :
    (fields named).Strange (.map entries) key ↔
      key ∈ unnamed (named.map (·.1)) (entries.map (·.1)) ∨
        ∃ field ∈ named, ∃ item, Value.lookup? entries field.1 = some item ∧
          field.2.Strange item key := by
  constructor
  · rintro (stray | _ | ⟨member, found, strange⟩)
    · exact .inl stray
    · exact .inr ⟨_, member, _, found, strange⟩
  · rintro (stray | ⟨field, member, item, found, strange⟩)
    · exact .here stray
    · exact .field member found strange

end Strange

section Accepts

variable {value : Value}

/-- An accepted value is of the kind. -/
theorem Accepts.kind {kind : Kind} (accepts : (Rule.kinds [kind]).Accepts value) :
    kind.admits false value := by
  cases accepts with
  | kinds member admits =>
      rw [List.mem_singleton.mp member] at admits
      exact admits

/-- An accepted value equals one of several. -/
theorem Accepts.equal {values : List Value} (accepts : (Rule.among values).Accepts value) :
    ∃ other ∈ values, value.equals other := by
  cases accepts with
  | among member equal => exact ⟨_, member, equal⟩

/-- An accepted text is long enough. -/
theorem Accepts.long {least : Nat} {text : String}
    (accepts : (Rule.longEnough least).Accepts (.text text)) : least ≤ text.length := by
  cases accepts with
  | longEnough long => exact long text rfl

/-- What several rules accept each of them accepts. -/
theorem Accepts.each {rules : List Rule} (accepts : (Rule.all rules).Accepts value) :
    ∀ rule ∈ rules, rule.Accepts value := by
  cases accepts with
  | all each => exact each

/-- The values under the names of accepted fields are accepted. -/
theorem Accepts.field {named : List (String × Rule)} {entries : List (Value × Value)}
    (accepts : (Rule.fields named).Accepts (.map entries)) {field : String × Rule}
    (member : field ∈ named) {item : Value}
    (found : Value.lookup? entries field.1 = some item) : field.2.Accepts item := by
  cases accepts with
  | fields each known => exact each entries rfl field member item found

end Accepts

/-- A truth value that is admitted is named, so nothing needs to be excluded. -/
theorem stop?_kinds (admitted : List Kind) (name : String) (value : Value) :
    (kinds admitted).stop? name value =
      if Kind.anyAdmits false admitted value then none
      else some (.complaint
        (name ++ " must be " ++ " or ".intercalate (admitted.map Kind.name))) := by
  unfold stop?
  cases value with
  | bool b =>
      rw [Kind.anyAdmits_bool]
      dsimp only
      rw [Bool.not_not, Bool.and_self]
  | _ => simp only [Bool.not_false, Bool.and_true]

/-- Several rules stop as the first of them does that stops. -/
theorem stop?_all (rules : List Rule) (name : String) (value : Value) :
    (all rules).stop? name value = firstStop? rules name value := by
  unfold stop?
  rfl

/-- The check of entries ends with those that are named or else with the keys that are not. -/
theorem stop?_fields (named : List (String × Rule)) (name : String)
    (entries : List (Value × Value)) :
    let names := named.map (·.1)
    let keys := entries.map (·.1)
    (fields named).stop? name (.map entries) =
      (namedStop? named name entries).or
        (if (unnamed names keys).isEmpty then none
        else if Value.anyTooLong (unnamed names keys) then some (.failure Value.tooLong)
        else some (.complaint (name ++ " must not contain " ++
          (Value.set (unnamed names (Value.scattered keys))).literal ++ " properties"))) := by
  intro names keys
  unfold stop?
  dsimp only
  cases namedStop? named name entries <;> rfl

-- Rules stand inside rules, alone and under names, so the induction is on rules, lists of rules and
-- lists of fields at once.
mutual

/-- **A check ends without a word just where the rule accepts the value.** -/
theorem stop?_eq_none_iff (rule : Rule) (name : String) (value : Value) :
    rule.stop? name value = none ↔ rule.Accepts value := by
  match rule with
  | .kinds admitted =>
      rw [stop?_kinds, ite_eq_left_iff]
      simp only [reduceCtorEq, imp_false, not_not, Kind.anyAdmits, List.any_eq_true]
      exact ⟨fun ⟨kind, member, own⟩ => .kinds member own,
        fun | .kinds member own => ⟨_, member, own⟩⟩
  | .among values =>
      unfold stop?
      rw [ite_eq_left_iff]
      simp only [reduceCtorEq, imp_false, not_not, List.any_eq_true]
      exact ⟨fun ⟨other, member, equal⟩ => .among member equal,
        fun | .among member equal => ⟨_, member, equal⟩⟩
  | .longEnough least =>
      unfold stop?
      cases value with
      | text text =>
          dsimp only
          rw [ite_eq_right_iff]
          simp only [reduceCtorEq, imp_false, Nat.not_lt]
          refine ⟨fun long => .longEnough ?_, fun | .longEnough long => long text rfl⟩
          rintro _ ⟨⟩
          exact long
      | _ => exact ⟨fun _ => .longEnough fun text same => (nomatch same), fun _ => rfl⟩
  | .all rules =>
      unfold stop?
      rw [firstStop?_eq_none_iff rules name value]
      exact ⟨.all, fun | .all each => each⟩
  | .fields named =>
      cases value with
      | map entries =>
          rw [stop?_fields, Option.or_eq_none_iff, namedStop?_eq_none_iff named name entries]
          constructor
          · rintro ⟨each, silent⟩
            refine .fields ?_ ?_
            · rintro _ ⟨⟩
              exact each
            · rintro _ ⟨⟩
              split at silent
              next known => exact List.isEmpty_iff.mp known
              next => split at silent <;> cases silent
          · intro accepts
            cases accepts with
            | fields each known =>
                refine ⟨each entries rfl, ?_⟩
                rw [if_pos (List.isEmpty_iff.mpr (known entries rfl))]
      | _ =>
          refine ⟨fun _ => .fields ?_ ?_, fun _ => by unfold stop?; rfl⟩
          · intro entries same
            cases same
          · intro entries same
            cases same

/-- Nothing stops several rules that all accept the value. -/
theorem firstStop?_eq_none_iff (rules : List Rule) (name : String) (value : Value) :
    firstStop? rules name value = none ↔ ∀ rule ∈ rules, rule.Accepts value := by
  match rules with
  | [] => exact ⟨fun _ rule member => (nomatch member), fun _ => by rw [firstStop?]⟩
  | rule :: rest =>
      rw [firstStop?, Option.or_eq_none_iff, stop?_eq_none_iff rule name value,
        firstStop?_eq_none_iff rest name value, List.forall_mem_cons]

/-- Nothing stops the rules for fields that accept what stands under their names. -/
theorem namedStop?_eq_none_iff (named : List (String × Rule)) (name : String)
    (entries : List (Value × Value)) :
    namedStop? named name entries = none ↔ ∀ field ∈ named, ∀ item,
      Value.lookup? entries field.1 = some item → field.2.Accepts item := by
  match named with
  | [] => exact ⟨fun _ field member => (nomatch member), fun _ => by rw [namedStop?]⟩
  | (key, rule) :: rest =>
      rw [namedStop?, Option.or_eq_none_iff, namedStop?_eq_none_iff rest name entries,
        List.forall_mem_cons]
      refine and_congr_left fun _ => ?_
      cases found : Value.lookup? entries key with
      | none => simp only [reduceCtorEq, false_implies, implies_true]
      | some item =>
          simp only [stop?_eq_none_iff rule (name ++ "." ++ key) item, Option.some.injEq,
            forall_eq']

end

mutual

/-- **A check that fails in a way of its own** has met a key that the rule does not name and that
cannot be spelled. -/
theorem strange_of_failure (rule : Rule) (name : String) (value : Value) {fault : Failure}
    (failed : rule.stop? name value = some (.failure fault)) :
    fault = Value.tooLong ∧ ∃ key, rule.Strange value key ∧ key.hasTooLong := by
  match rule with
  | .kinds admitted =>
      rw [stop?_kinds] at failed
      split at failed <;> cases failed
  | .among values =>
      unfold stop? at failed
      split at failed <;> cases failed
  | .longEnough least =>
      unfold stop? at failed
      cases value with
      | text text =>
          dsimp only at failed
          split at failed <;> cases failed
      | _ => cases failed
  | .all rules =>
      unfold stop? at failed
      obtain ⟨same, rule, member, key, strange, long⟩ :=
        strange_of_firstFailure rules name value failed
      exact ⟨same, key, .part member strange, long⟩
  | .fields named =>
      cases value with
      | map entries =>
          rw [stop?_fields, Option.or_eq_some_iff] at failed
          -- Named fields come first; only the keys left over fail on their own account.
          obtain within | ⟨-, failed⟩ := failed
          · obtain ⟨same, field, member, item, found, key, strange, long⟩ :=
              strange_of_namedFailure named name entries within
            exact ⟨same, key, .field member found strange, long⟩
          · split at failed
            · cases failed
            · split at failed
              next long =>
                cases failed
                obtain ⟨key, stray, long⟩ := Value.exists_hasTooLong long
                exact ⟨rfl, key, .here stray, long⟩
              next => cases failed
      | _ =>
          unfold stop? at failed
          cases failed

/-- A failure of several rules comes from a strange key that is too long to be written. -/
theorem strange_of_firstFailure (rules : List Rule) (name : String) (value : Value)
    {fault : Failure} (failed : firstStop? rules name value = some (.failure fault)) :
    fault = Value.tooLong ∧ ∃ rule ∈ rules, ∃ key, rule.Strange value key ∧ key.hasTooLong := by
  match rules with
  | [] =>
      rw [firstStop?] at failed
      cases failed
  | rule :: rest =>
      rw [firstStop?, Option.or_eq_some_iff] at failed
      obtain now | ⟨-, later⟩ := failed
      · obtain ⟨same, strange⟩ := strange_of_failure rule name value now
        exact ⟨same, rule, List.mem_cons_self, strange⟩
      · obtain ⟨same, other, member, strange⟩ := strange_of_firstFailure rest name value later
        exact ⟨same, other, List.mem_cons_of_mem _ member, strange⟩

/-- A failure of the rules for fields comes from a strange key that is too long to be written. -/
theorem strange_of_namedFailure (named : List (String × Rule)) (name : String)
    (entries : List (Value × Value)) {fault : Failure}
    (failed : namedStop? named name entries = some (.failure fault)) :
    fault = Value.tooLong ∧ ∃ field ∈ named, ∃ item, Value.lookup? entries field.1 = some item ∧
      ∃ key, field.2.Strange item key ∧ key.hasTooLong := by
  match named with
  | [] =>
      rw [namedStop?] at failed
      cases failed
  | (key, rule) :: rest =>
      rw [namedStop?, Option.or_eq_some_iff] at failed
      obtain now | ⟨-, later⟩ := failed
      · cases found : Value.lookup? entries key with
        | none =>
            rw [found] at now
            cases now
        | some item =>
            rw [found] at now
            obtain ⟨same, strange⟩ := strange_of_failure rule (name ++ "." ++ key) item now
            exact ⟨same, (key, rule), List.mem_cons_self, item, found, strange⟩
      · obtain ⟨same, field, member, strange⟩ := strange_of_namedFailure rest name entries later
        exact ⟨same, field, List.mem_cons_of_mem _ member, strange⟩

end

end Schema.Rule

end Hexwire
