import Hexwire.Bytes.SixBits
import Hexwire.Bytes.Utf8
import Hexwire.Document.Json
import Hexwire.Schema.Draft
import Hexwire.Text.Pattern.Matching
import Hexwire.Text.Placeholder
import Hexwire.Value.Scatter
import Hexwire.Value.Quotient

/-! # Carrying out plans

A plan is carried out over a value that it may change: what is missing can be given a standard
value, which later statements see. A slot therefore keeps where a value stands rather than the value
itself, unless it is one that was computed. A statement ends with a complaint about the value or
with a failure; what was changed until then stays.
-/

namespace Hexwire.Schema

/-- A step inside a value. -/
inductive Step where
  | item (index : Nat)
  | entry (key : Value)

namespace Step

/-- The value that a step leads to. -/
def follow? (step : Step) (value : Value) : Option Value :=
  match step, value with
  | item index, .list items => items[index]?
  | item index, .tuple items => items[index]?
  | entry key, .map entries => (entries.find? fun (other, _) => other.equals key).map (·.2)
  | _, _ => none

/-- A value in which what a step leads to was changed. -/
def change (f : Value → Value) (step : Step) (value : Value) : Value :=
  match step, value with
  | item index, .list items => .list (items.modify index f)
  | entry key, .map entries =>
    .map (entries.map fun (other, old) =>
      if other.equals key then (other, f old) else (other, old))
  | _, value => value

end Step

/-- The value that steps lead to. -/
def below? : List Step → Value → Option Value
  | [], value => some value
  | step :: rest, value => (step.follow? value).bind (below? rest)

/-- A value in which what steps lead to was changed. -/
def changeBelow (f : Value → Value) : List Step → Value → Value
  | [] => f
  | step :: rest => step.change (changeBelow f rest)

/-- What a slot keeps. -/
inductive Content where
  /-- The place of a value: one of the wholes and the steps inside it. -/
  | place (whole : Nat) (steps : List Step)
  | value (value : Value)

/-- The wholes that are checked and what the slots of a plan keep. -/
structure Progress where
  wholes : Array Value
  slots : List (Slot × Content)
  /-- The name of the whole, where a plan was called at a place. -/
  name : Option String

/-- The value of what is kept. -/
def Content.valueIn (progress : Progress) : Content → Value
  | .value found => found
  | .place whole steps => ((progress.wholes[whole]?).bind (below? steps)).getD .null

/-- Carrying out a plan. -/
abbrev Run := ExceptT Stop (StateM Progress)

namespace Run

/-- Ends with a failure. -/
def fail {α : Type} (failure : Failure) : Run α := throw (.failure failure)

/-- A result whose failure ends the plan. -/
def lift {α : Type} : Except Failure α → Run α
  | .ok value => pure value
  | .error failure => fail failure

/-- What a slot keeps. -/
def contentOf (slot : Slot) : Run Content := do
  match (← get).slots.lookup slot with
  | some content => pure content
  | none => fail (.ofText .unboundName ("cannot access local variable '" ++ slot ++
      "' where it is not associated with a value"))

/-- The value of a slot. -/
def valueOf (slot : Slot) : Run Value := do
  let content ← contentOf slot
  pure (Content.valueIn (← get) content)

/-- Fills a slot. -/
def fill (slot : Slot) (content : Content) : Run Unit :=
  modify fun progress =>
    { progress with slots := (slot, content) :: progress.slots.filter (·.1 ≠ slot) }

/-- Fills a slot with a value that was computed. -/
def fillValue (slot : Slot) (value : Value) : Run Unit := fill slot (.value value)

/-- Fills a slot with a whole of its own. -/
def fillWhole (slot : Slot) (value : Value) : Run Unit := do
  let whole := (← get).wholes.size
  modify fun progress => { progress with wholes := progress.wholes.push value }
  fill slot (.place whole [])

/-- Changes the value of a slot where it stands. -/
def change (slot : Slot) (f : Value → Value) : Run Unit := do
  match ← contentOf slot with
  | .value value => fillValue slot (f value)
  | .place whole steps =>
    modify fun progress =>
      { progress with wholes := progress.wholes.modify whole (changeBelow f steps) }

/-- What is kept of a part of the value of a slot. -/
def part (slot : Slot) (step : Step) (value : Value) : Run Content := do
  match ← contentOf slot with
  | .value _ => pure (.value value)
  | .place whole steps => pure (.place whole (steps ++ [step]))

/-- A text of the definition as it was written. -/
def inscribed (text : String) : String := (Inscription.read text).toOption.getD text

/-- The values that placeholders in a place can name. -/
def named : Run (List (String × Value)) := do
  let progress ← get
  let slots := progress.slots.map fun (slot, content) => (slot, Content.valueIn progress content)
  let name := match progress.name with
    | some name => Value.text name
    | none => .null
  pure (slots ++ [("custom_formats", .map []), ("name_prefix", name)])

/-- The name of a place. -/
def placeOf (place : String) : Run String := do
  let text := inscribed place
  let whole := ((← get).name).getD "data"
  if place.toList.contains '\x7b' then
    pure (whole ++ (← lift (Text.Placeholder.fill (← named) text)))
  else pure (whole ++ text)

/-! ## Complaints -/

/-- Values in order: texts among texts or numbers among numbers. -/
def sorted (values : List Value) : Except Failure (List Value) :=
  let texts := values.filter fun value => match value with
    | .text _ => true
    | _ => false
  let others := values.filter fun value => match value with
    | .text _ => false
    | _ => true
  let clash (x y : Value) : Bool := !(x.isNumber && y.isNumber)
  let mixed := (texts.getLast?.toList ++ others)
  match (mixed.zip (mixed.drop 1)).find? fun (x, y) => clash x y with
  | some (x, y) =>
    .error (Value.wrongKind ("'<' not supported between instances of '" ++ y.typeName ++
      "' and '" ++ x.typeName ++ "'"))
  | none =>
    if others.isEmpty then
      .ok (((texts.map Value.plain).mergeSort (· ≤ ·)).map Value.text)
    else .ok (others.mergeSort fun x y => x.compareNumbers? y ≠ some .gt)

/-- The text of a value. -/
def spell (value : Value) : Run String := do
  pure (String.ofList (← lift (value.spelled Value.plain)))

/-- The text of a part of a complaint about a place. -/
def textOf (place : String) : Piece → Run String
  | .inscription text => pure (inscribed text)
  | .verbatim text => pure text
  | .place => placeOf place
  | .slot slot => do spell (← valueOf slot)
  | .sorted slot => do
    match ← valueOf slot with
    | .set items => do spell (.list (← lift (sorted items)))
    | value => spell value

/-- Complains. A place that cannot be named and a name in the definition that means nothing are
failures of their own. -/
def complain (complaint : Complaint) : Run Unit := do
  let texts ← complaint.pieces.mapM (textOf complaint.place)
  let _ ← contentOf complaint.slot
  let _ ← placeOf complaint.place
  if let some name := complaint.unknown then
    fail (.ofText .unknownName ("name '" ++ name ++ "' is not defined"))
  throw (.complaint (String.join texts))

/-! ## Actions -/

/-- The keys of a mapping as a set. -/
def keysOf (value : Value) : Except Failure Value := do
  pure (.set (Value.scattered ((← value.entriesBy "keys").map (·.1))))

/-- Fills a slot from the value of another. -/
def measure (slot : Slot) (measure : Measure) (of : Slot) : Run Unit := do
  let value ← valueOf of
  match measure with
  | .length => do fillValue slot (.int (← lift value.count))
  | .keys => do fillValue slot (← lift (keysOf value))
  | .isList => fillValue slot (.bool (Kind.array.admits true value))
  | .isMap => fillValue slot (.bool (Kind.object.admits true value))

/-- Decodes the value of a slot. -/
def decode (coding : Coding) (slot : Slot) : Run Unit := do
  let value ← valueOf slot
  let broken : Run Unit := fail (.ofText .value "")
  match coding, value with
  | .base64, .text text => match SixBits.decode? text with
    | some data => fillWhole slot (.bytes data)
    | none => broken
  | .utf8, .bytes data => match Utf8.decode data with
    | .ok text => fillWhole slot (.text (String.ofList text))
    | .error _ => broken
  | .json, .text text => match Document.Json.parse text.toList with
    | .ok value => fillWhole slot value
    | .error _ => broken
  | _, _ => broken

/-- The quotient of the value of a slot and a literal. -/
def quotientOf (slot : Slot) (divisor : Literal) : Run Quotient := do
  let value ← valueOf slot
  match value, divisor.read with
  | .bool _, .error _ => lift (Quotient.ofValues value divisor.value)
  | _, .error failure => fail failure
  | _, .ok divisor => lift (Quotient.ofValues value divisor)

/-- Calls a plan: its name, the value that it checks and the name of the whole. -/
abbrev Caller := String → Content → String → Run Unit

/-- Carries out an action; tells whether it ends going through items. -/
def act (call : Caller) : Action → Run Bool
  | .skip => pure false
  | .set slot value => do
    fillValue slot value.value
    pure false
  | .increment slot => do
    match ← valueOf slot with
    | .int n => fillValue slot (.int (n + 1))
    | _ => pure ()
    pure false
  | .measure slot kind of => do
    measure slot kind of
    pure false
  | .leave => pure true
  | .complain complaint => do
    complain complaint
    pure false
  | .call plan slot place => do
    let content ← contentOf slot
    call plan content (← placeOf place)
    pure false
  | .likeness => pure false
  | .divide slot divisor => do
    let quotient ← quotientOf slot divisor
    fillValue "quotient" (match quotient with
      | .binary value => .float value
      | _ => .null)
    pure false
  | .missing slot keys of => do
    let keys ← lift keys.read
    let entries ← lift ((← valueOf of).entriesBy "keys")
    let required := match keys with
      | .list items => items
      | .tuple items => items
      | _ => []
    fillValue slot (.set (required.filter fun key =>
      !entries.any fun (other, _) => other.equals key))
    pure false
  | .forget slot key => do
    let key := Value.text (inscribed key)
    change slot fun value => match value with
      | .set items => .set (items.filter fun item => !item.equals key)
      | value => value
    pure false
  | .forgetHeld slot key => do
    let key ← valueOf key
    change slot fun value => match value with
      | .set items => .set (items.filter fun item => !item.equals key)
      | value => value
    pure false
  | .entry slot of key => do
    let key := inscribed key
    let value ← lift ((← valueOf of).under key)
    fill slot (← part of (.entry (.text key)) value)
    pure false
  | .item slot of index => do
    let value ← lift (Text.Placeholder.itemAt (← valueOf of) index)
    fill slot (← part of (.item index) value)
    pure false
  | .entryHeld slot of key => do
    let key ← valueOf key
    match (Step.entry key).follow? (← valueOf of) with
    | some value => fill slot (← part of (.entry key) value)
    | none => fillValue slot .null
    pure false
  | .insert of key value => do
    let value ← lift value.read
    let key := Value.text (inscribed key)
    change of fun whole => match whole with
      | .map entries => .map (Value.insertEntry entries key value)
      | whole => whole
    pure false
  | .append of value => do
    let value ← lift value.read
    change of fun whole => match whole with
      | .list items => .list (items ++ [value])
      | whole => whole
    pure false
  | .prepare _ => pure false
  | .decode coding slot => do
    decode coding slot
    pure false
  | .compile slot => do
    match ← valueOf slot with
    | .text text => match Text.Pattern.parse text.toList with
      | .ok _ => pure false
      | .error _ => fail (.ofText .pattern "")
    | _ => fail (.ofText .type "")

/-! ## Tests -/

mutual

/-- A value in the form in which items are compared: a truth value is the text of its literal, a
list a tuple and a mapping the set of its entries. -/
def comparable : Value → Value
  | .bool b => .text (Value.bool b).literal
  | .list items => .tuple (comparableAll items)
  | .map entries => .set (comparableEntries entries)
  | value => value

/-- Values in the form in which items are compared. -/
def comparableAll : List Value → List Value
  | [] => []
  | item :: rest => comparable item :: comparableAll rest

/-- Entries in the form in which items are compared. -/
def comparableEntries : List (Value × Value) → List Value
  | [] => []
  | (key, value) :: rest => .tuple [key, comparable value] :: comparableEntries rest

end

/-- Whether the pattern under a key matches a value, at the start or anywhere. -/
def matchesPattern (patterns : List (String × Text.Pattern)) (key : String) (start : Bool)
    (value : Value) : Run Bool :=
  match patterns.reverse.lookup key, value with
  | some pattern, .text text =>
    pure (if start then pattern.matchesStart text else pattern.occursIn text)
  | _, value => fail (Value.wrongKind
      ("expected string or bytes-like object, got '" ++ value.typeName ++ "'"))

/-- Whether a value is one of a kind that a definition names. A truth value counts as a number only
where truth values are named too. -/
def isOther (kinds : List Kind) (strict : Bool) (value : Value) : Bool :=
  let excluded := match value with
    | .bool _ => !kinds.contains .boolean
    | _ => false
  excluded || !Kind.anyAdmits strict kinds value

/-- Whether a test succeeds. -/
def succeeds (patterns : List (String × Text.Pattern)) : Test → Run Bool
  | .isText slot => do pure (Kind.string.admits true (← valueOf slot))
  | .isNumber slot => do pure (← valueOf slot).isNumber
  | .isOctets slot => do
    pure (match ← valueOf slot with
      | .bytes _ => true
      | _ => false)
  | .isTrue slot => do pure (← valueOf slot).isTrue
  | .isFalse slot => do pure (!(← valueOf slot).isTrue)
  | .isEmptyText slot => do pure ((← valueOf slot).equals (.text ""))
  | .isOther slot kinds strict => do pure (isOther kinds strict (← valueOf slot))
  | .notAmong slot values => do
    let value ← valueOf slot
    let values ← lift (← lift values.read).itemsIn
    pure (!values.any fun other => value.equals other)
  | .differs slot expected => do
    let value ← valueOf slot
    pure (!value.equals (← lift expected.read))
  | .differsText slot text => do pure (!(← valueOf slot).equals (.text (inscribed text)))
  | .relates slot relation bound => do
    let value ← valueOf slot
    pure (relation.holds value (← lift bound.read))
  | .isNotOne slot => do pure (!(← valueOf slot).equals (.int 1))
  | .isFraction slot divisor => do pure (!(← lift (← quotientOf slot divisor).isWhole))
  | .repeats count slot => do
    let count ← valueOf count
    let items ← lift (← valueOf slot).itemsIn
    let distinct := (Value.itemsOf (comparableAll items)).length
    pure (Relation.greater.holds count (.int distinct))
  | .hasKey key slot => do lift ((← valueOf slot).holds (inscribed key))
  | .lacksKey key slot => do pure (!(← lift ((← valueOf slot).holds (inscribed key))))
  | .hasHeld key slot => do
    let key ← valueOf key
    pure (match ← valueOf slot with
      | .set items => items.any (·.equals key)
      | _ => false)
  | .mismatches key start slot => do pure (!(← matchesPattern patterns key start (← valueOf slot)))
  | .occurs key slot => do matchesPattern patterns key false (← valueOf slot)

/-! ## Statements -/

/-- What is done before each round of going through items. -/
def rounds : Course → Run (List (Run Unit))
  | .items index item of start => do
    let values ← lift (← valueOf of).itemsIn
    let first := start.getD 0
    (values.zipIdx.drop first).mapM fun (value, position) => do
      let content ← part of (.item position) value
      pure do
        fillValue index (.int position)
        fill item content
  | .entries key value of => do
    let entries ← lift ((← valueOf of).entriesBy "items")
    entries.mapM fun (name, held) => do
      let content ← part of (.entry name) held
      pure do
        fillValue key name
        fill value content
  | .members member of => do
    match ← valueOf of with
    | .list items =>
      items.zipIdx.mapM fun (value, position) => do
        let content ← part of (.item position) value
        pure (fill member content)
    | value => do pure ((← lift value.itemsIn).map fun item => fillValue member item)

/-- Carries out a body in rounds until one of them ends going through items. -/
def repeatedly (body : Run Bool) : List (Run Unit) → Run Unit
  | [] => pure ()
  | round :: rest => do
    round
    if ← body then pure () else repeatedly body rest

/-- The outcome of a part of a plan, which does not end the whole. -/
def outcome {α : Type} (part : Run α) : Run (Except Stop α) :=
  tryCatch (do pure (.ok (← part))) fun stop => pure (.error stop)

section Statements

variable (patterns : List (String × Text.Pattern)) (call : Caller)

mutual

/-- Carries out a statement; tells whether it ends going through items. -/
def carryOut : Statement → Run Bool
  | .act action => act call action
  | .branch test body otherwise => do
    if ← succeeds patterns test then carryOutAll body
    else match otherwise with
      | some action => act call action
      | none => pure false
  | .each course body => do
    repeatedly (carryOutAll body) (← rounds course)
    pure false
  | .attempt body every handler otherwise => do
    match ← outcome (carryOutAll body) with
    | .ok true => pure true
    | .ok false => carryOutAny otherwise
    | .error stop => if stop.isHandled every then carryOutAny handler else throw stop

/-- Carries out statements in order. -/
def carryOutAll : List Statement → Run Bool
  | [] => pure false
  | statement :: rest => do
    if ← carryOut statement then pure true else carryOutAll rest

/-- Carries out statements where there are any. -/
def carryOutAny : Option (List Statement) → Run Bool
  | none => pure false
  | some body => carryOutAll body

end

end Statements

/-- How many plans can be under way at once. -/
def depthLimit : Nat := 980

/-- Calls a plan, up to a depth. The slots of the caller are kept. -/
def callWithin (plan : Plan) : Nat → Caller
  | 0, _, _, _ => fail (.ofText .recursion "maximum recursion depth exceeded")
  | depth + 1, name, content, whole => do
    let before ← get
    set { before with slots := [("data", content)], name := some whole }
    let body := (plan.parts.reverse.lookup name).getD []
    let ended ← outcome (carryOutAll plan.patterns (callWithin plan depth) body)
    modify fun progress => { progress with slots := before.slots, name := before.name }
    match ended with
    | .ok _ => pure ()
    | .error stop => throw stop

end Run

/-- What ends a plan for a value early, if anything does. -/
def Plan.stop? (plan : Plan) (value : Value) : Option Stop :=
  let body := (plan.parts.reverse.lookup plan.entry).getD []
  let start : Progress := ⟨#[value], [("data", .place 0 [])], none⟩
  let run : Run Bool := Run.carryOutAll plan.patterns (Run.callWithin plan Run.depthLimit) body
  match (ExceptT.run run start).1 with
  | .ok _ => none
  | .error stop => some stop

end Hexwire.Schema
