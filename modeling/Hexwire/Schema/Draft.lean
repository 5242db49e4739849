import Hexwire.Schema.Catalog
import Hexwire.Schema.Edition
import Hexwire.Schema.Plan
import Hexwire.Text.Pattern.Matching
import Hexwire.Value.Printer

/-! # Drafting plans

The plan of a definition is drafted line by line while its keywords are gone through. A line that
repeats the one before it is left out, so statements under the same test join. Slots that were
filled are filled once, unless a definition starts afresh. A reference becomes a call of the plan
for what it refers to, which is drafted when the plans before it are complete, the latest first.
-/

namespace Hexwire.Schema

/-- What is checked: a definition, the slot of the value and the place of the value. -/
structure Subject where
  definition : Value
  slot : Slot
  /-- The place below the whole, as it is written. -/
  place : String

/-- A plan that is being drafted. -/
structure Draft where
  edition : Edition
  catalog : Catalog
  /-- The statements under the heading at hand, the latest first. -/
  statements : List Statement := []
  /-- The line before, unless it can have no repetition. -/
  last : Line := .other
  /-- The slots that are filled. -/
  slots : List Slot := []
  /-- How many choices there are. -/
  choices : Nat := 0
  /-- Patterns by the keys under which they are known, the latest last. -/
  patterns : List (String × Text.Pattern) := []
  /-- The places whose plans are to be drafted, with the names of these, the latest last. -/
  waiting : List (List Char × String) := []
  /-- The places whose plans were drafted. -/
  done : List (List Char) := []

/-- Drafting a plan. -/
abbrev Drafting := StateT Draft (Except Fault)

namespace Drafting

/-- Refuses a definition. -/
def refuse {α : Type} (text : String) : Drafting α := throw (.invalid text)

/-- Checks that lines can be written for a definition, which must be a mapping or pass for one. -/
def checkWritable (subject : Subject) : Drafting Unit := do
  match subject.definition with
  | .map _ => pure ()
  | .bool _ => pure ()
  | definition =>
    if definition.isTrue then
      let _ ← Fault.lift definition.toEntries

/-- Adds a statement. -/
def push (statement : Statement) : Drafting Unit :=
  modify fun draft => { draft with statements := statement :: draft.statements }

/-- Writes an action, unless it repeats the line before. -/
def act (subject : Subject) (action : Action) : Drafting Unit := do
  checkWritable subject
  if (← get).last == .action action then pure ()
  else
    push (.act action)
    modify fun draft => { draft with last := .action action }

/-- The statements that are written under a heading. -/
def under (line : Line) (body : Drafting Unit) : Drafting (List Statement) := do
  let before := (← get).statements
  modify fun draft => { draft with statements := [], last := line }
  body
  let found := (← get).statements.reverse
  modify fun draft => { draft with statements := before, last := line }
  pure found

/-- Writes statements under a test. Where `joins` is set and the line before closes the same test,
the statements join those under it. -/
def branchWith (joins : Bool) (subject : Subject) (test : Test) (body : Drafting Unit) :
    Drafting Unit := do
  checkWritable subject
  let repeated := joins && (← get).last == .test test
  let found ← under (.test test) body
  match repeated, (← get).statements with
  | true, .branch _ earlier otherwise :: before =>
    modify fun draft =>
      { draft with statements := .branch test (earlier ++ found) otherwise :: before }
  | _, _ => push (.branch test found none)

/-- Writes statements under a test. -/
def branch (subject : Subject) (test : Test) (body : Drafting Unit) : Drafting Unit :=
  branchWith true subject test body

/-- Writes what is done where the last test fails. -/
def otherwise (subject : Subject) (action : Action) : Drafting Unit := do
  checkWritable subject
  match (← get).statements with
  | .branch test body _ :: before =>
    modify fun draft =>
      { draft with statements := .branch test body (some action) :: before, last := .other }
  | _ => pure ()

/-- Writes statements for items that are gone through. -/
def each (subject : Subject) (course : Course) (body : Drafting Unit) : Drafting Unit := do
  checkWritable subject
  let repeated := (← get).last == .course course
  let found ← under (.course course) body
  match repeated, (← get).statements with
  | true, .each _ earlier :: before =>
    modify fun draft => { draft with statements := .each course (earlier ++ found) :: before }
  | _, _ => push (.each course found)

/-- Writes an attempt. -/
def attempt (subject : Subject) (body : Drafting Unit) (every : Bool)
    (handler otherwise : Option (Drafting Unit)) : Drafting Unit := do
  checkWritable subject
  let found ← under .attempt body
  let handled ← handler.mapM (under .other)
  let followed ← otherwise.mapM (under .other)
  push (.attempt found every handled followed)
  modify fun draft => { draft with last := .other }

/-- Fills a slot that is not filled. -/
def fill (subject : Subject) (suffix : String) (measure : Measure) : Drafting Unit := do
  let slot := subject.slot ++ suffix
  if (← get).slots.contains slot then pure ()
  else
    modify fun draft => { draft with slots := slot :: draft.slots }
    act subject (.measure slot measure subject.slot)

/-- Fills the slot of the length of the value. -/
def fillLength (subject : Subject) : Drafting Unit := fill subject "_len" .length

/-- Fills the slot of the keys of the value. -/
def fillKeys (subject : Subject) : Drafting Unit := fill subject "_keys" .keys

/-- Writes statements for a value that is a list. -/
def ifList (subject : Subject) (body : Drafting Unit) : Drafting Unit := do
  fill subject "_is_list" .isList
  branch subject (.isTrue (subject.slot ++ "_is_list")) body

/-- Writes statements for a value that is a mapping. -/
def ifMap (subject : Subject) (body : Drafting Unit) : Drafting Unit := do
  fill subject "_is_dict" .isMap
  branch subject (.isTrue (subject.slot ++ "_is_dict")) body

/-- What a keyword of the definition says. -/
def keyword (subject : Subject) (name : String) : Drafting Value :=
  (Fault.lift (subject.definition.under name) : Except Fault Value)

/-- What a keyword says, or a standard where it is missing. -/
def keywordOr (subject : Subject) (name : String) (standard : Value) : Drafting Value :=
  (Fault.lift (subject.definition.getOr name standard) : Except Fault Value)

mutual

/-- The first name that means nothing in a definition whose references are followed once. -/
def unknownIn (catalog : Catalog) : Value → Except Fault (Option String)
  | .list items => unknownAmong catalog items
  | .map entries =>
    match Value.lookup? entries "$ref" with
    | some (.text reference) => do
      let (_, definition) ← catalog.find reference.toList
      pure (unknownName? definition)
    | _ => unknownWithin catalog entries
  | value => .ok (unknownName? value)

/-- The first name that means nothing in definitions. -/
def unknownAmong (catalog : Catalog) : List Value → Except Fault (Option String)
  | [] => .ok none
  | item :: rest => do
    let first ← unknownIn catalog item
    let other ← unknownAmong catalog rest
    pure (first.or other)

/-- The first name that means nothing in the definitions of entries. -/
def unknownWithin (catalog : Catalog) : List (Value × Value) → Except Fault (Option String)
  | [] => .ok none
  | (_, value) :: rest => do
    let first ← unknownIn catalog value
    let other ← unknownWithin catalog rest
    pure (first.or other)

end

/-- Writes a complaint. -/
def complain (subject : Subject) (pieces : List Piece) : Drafting Unit := do
  let unknown ← (unknownIn (← get).catalog subject.definition : Except Fault (Option String))
  act subject (.complain ⟨pieces, subject.slot, subject.place, unknown⟩)

/-- Writes a complaint that names the place and goes on with a text. -/
def complainOf (subject : Subject) (text : String) : Drafting Unit :=
  complain subject [.place, .inscription text]

/-- The text that a plan shows for a value. -/
def shown (value : Value) : String := value.plain

/-- A text of a definition inside a longer one, as it is written: its marks are escaped. -/
def escaped (text : String) : String :=
  String.ofList (text.toList.flatMap fun c => if c = '"' then ['\\', '"'] else [c])

/-! ## Keywords -/

/-- What drafts the plan of a definition: whether the slots start afresh, and what it is about. It
tells whether the definition is known to have no keywords. -/
abbrev Drafter := Bool → Subject → Drafting Bool

/-- The kinds that a definition names. -/
def kindOf (name : Value) : Drafting Kind :=
  if !name.isKey then refuse name.noKey.message
  else match Kind.all.find? fun kind => Value.equals (.text kind.name) name with
    | some kind => pure kind
    | none => refuse ("Unknown type: " ++ name.literal)

/-- The kinds of a value. -/
def type (subject : Subject) : Drafting Unit := do
  let names := match ← keyword subject "type" with
    | .list names => names
    | name => [name]
  let kinds ← names.mapM kindOf
  branch subject (.isOther subject.slot kinds ((← get).edition = .fourth)) do
    complainOf subject (" must be " ++ " or ".intercalate (kinds.map Kind.name))

/-- The values that are allowed. -/
def enum (subject : Subject) : Drafting Unit := do
  let values ← keyword subject "enum"
  match values with
  | .list _ | .tuple _ =>
    branch subject (.notAmong subject.slot ⟨values⟩) do
      complainOf subject (" must be one of " ++ shown values)
  | _ => refuse "enum must be an array"

/-- Definitions that all hold. -/
def allOf (draft : Drafter) (subject : Subject) : Drafting Unit := do
  let definitions ← (Fault.lift (← keyword subject "allOf").itemsIn : Except Fault (List Value))
  definitions.forM fun definition => do
    let _ ← draft true { subject with definition := definition }

/-- Counts how many of several definitions hold while a test of the count succeeds. -/
def countHolding (draft : Drafter) (subject : Subject) (name : String) (slot : Slot) (test : Test) :
    Drafting Unit := do
  act subject (.set slot ⟨.int 0⟩)
  let definitions ← (Fault.lift (← keyword subject name).itemsIn : Except Fault (List Value))
  definitions.forM fun definition =>
    branchWith false subject test do
      let body : Drafting Unit := do
        let _ ← draft true { subject with definition := definition }
        act subject (.increment slot)
      attempt subject body false none none

/-- The slot that counts for a choice. -/
def choiceSlot (subject : Subject) (word : String) : Drafting Slot := do
  modify fun draft => { draft with choices := draft.choices + 1 }
  pure (subject.slot ++ word ++ toString (← get).choices)

/-- Definitions of which one holds. -/
def anyOf (draft : Drafter) (subject : Subject) : Drafting Unit := do
  let slot ← choiceSlot subject "_any_of_count"
  countHolding draft subject "anyOf" slot (.isFalse slot)
  branchWith false subject (.isFalse slot) do
    complainOf subject " cannot be validated by any definition"

/-- Definitions of which exactly one holds. -/
def oneOf (draft : Drafter) (subject : Subject) : Drafting Unit := do
  let slot ← choiceSlot subject "_one_of_count"
  countHolding draft subject "oneOf" slot (.relates slot .less ⟨.int 2⟩)
  branch subject (.isNotOne slot) do
    complain subject [.place, .inscription " must be valid exactly by one definition",
      .inscription " (", .slot slot, .inscription " matches found)"]

/-- A definition that does not hold. -/
def not (draft : Drafter) (subject : Subject) : Drafting Unit := do
  let definition ← keyword subject "not"
  let complaint := complainOf subject " must NOT match a disallowed definition"
  match definition with
  | .bool true => complainOf subject " must not be there"
  | .bool false => pure ()
  | definition =>
    if !definition.isTrue then complaint
    else
      let body : Drafting Unit := do
        let _ ← draft false { subject with definition := definition }
      attempt subject body false none (some complaint)

/-- Checks that the value of a keyword is a number. -/
def checkNumber (name words : String) (value : Value) : Drafting Unit :=
  if value.isNumber then pure () else refuse (name ++ words)

/-- A bound of the length of a text. -/
def textLength (subject : Subject) (name : String) (relation : Relation) (words : String) :
    Drafting Unit :=
  branch subject (.isText subject.slot) do
    fillLength subject
    let bound ← keyword subject name
    checkNumber name " must be a number" bound
    branch subject (.relates (subject.slot ++ "_len") relation ⟨bound⟩) do
      complainOf subject (words ++ shown bound ++ " characters")

/-- The pattern of a text. -/
def patternOf (text : List Char) : Drafting Text.Pattern := do
  match Text.Pattern.parse text with
  | .ok pattern => pure pattern
  | .error (.malformed message) => throw (.failed (.ofText .pattern message))
  | .error .tooMany =>
    throw (.failed (.ofText .overflow "the repetition number is too large"))
  | .error .clash =>
    throw (.failed (.ofText .value "ASCII and UNICODE flags are incompatible"))

/-- A pattern known under a key; a later one takes the place of an earlier. -/
def know (key : String) (text : List Char) : Drafting Unit := do
  let pattern ← patternOf text
  modify fun draft => { draft with patterns := draft.patterns ++ [(key, pattern)] }

/-- The text of a pattern in which an end of lines is the end of the text. -/
def closedPattern (before : Char) : List Char → List Char
  | [] => []
  | c :: rest =>
    if c = '$' && before ≠ '\\' then '\\' :: 'Z' :: closedPattern c rest
    else c :: closedPattern c rest

/-- A pattern that occurs in a text. -/
def pattern (subject : Subject) : Drafting Unit :=
  branch subject (.isText subject.slot) do
    match ← keyword subject "pattern" with
    | .text text =>
      know text (closedPattern ' ' text.toList)
      branch subject (.mismatches text false subject.slot) do
        complain subject [.place, .inscription " must match pattern ", .verbatim text]
    | .bytes _ => refuse "a bytes-like object is required, not 'str'"
    | value => throw (.ofFailure (value.noMember "replace"))

/-- A format of a text. -/
def format (subject : Subject) : Drafting Unit :=
  branch subject (.isText subject.slot) do
    let name ← keyword subject "format"
    if !name.isKey then refuse name.noKey.message
    let formats := (← get).edition.formats
    let known := match name with
      | .text name => (formats.lookup name).map fun pattern => (name, pattern)
      | _ => none
    match known with
    | some (name, text) => do
      let key := name ++ "_re_pattern"
      if ((← get).patterns.lookup key).isNone then know key text.toList
      branch subject (.mismatches key true subject.slot) do
        complainOf subject (" must be " ++ name)
    | none =>
      if name.equals (.text "regex") then
        attempt subject (act subject (.compile subject.slot)) true
          (some (complainOf subject " must be a valid regex")) none
      else act subject .skip

/-- A bound of a number; another keyword can exclude the bound itself. -/
def amount (subject : Subject) (name excluding : String) (relation strict : Relation)
    (words strictWords : String) : Drafting Unit :=
  branch subject (.isNumber subject.slot) do
    let bound ← keyword subject name
    checkNumber name " must be a number" bound
    let isStrict := (← keywordOr subject excluding (.bool false)).isTrue
    branch subject (.relates subject.slot (if isStrict then strict else relation) ⟨bound⟩) do
      complainOf subject ((if isStrict then strictWords else words) ++ shown bound)

/-- A bound that is excluded itself. -/
def strictAmount (subject : Subject) (name : String) (relation : Relation) (words : String) :
    Drafting Unit :=
  branch subject (.isNumber subject.slot) do
    let bound ← keyword subject name
    checkNumber name " must be an integer, a float or a decimal" bound
    branch subject (.relates subject.slot relation ⟨bound⟩) do
      complainOf subject (words ++ shown bound)

/-- A number of which the value is a multiple. -/
def multipleOf (subject : Subject) : Drafting Unit :=
  branch subject (.isNumber subject.slot) do
    let factor ← keyword subject "multipleOf"
    checkNumber "multipleOf" " must be a number" factor
    act subject (.divide subject.slot ⟨factor⟩)
    branch subject (.isFraction subject.slot ⟨factor⟩) do
      complainOf subject (" must be multiple of " ++ shown factor)

/-- A bound of the count of items or entries. -/
def count (subject : Subject) (ifApplies : Subject → Drafting Unit → Drafting Unit) (name : String)
    (relation : Relation) (words noun : String) : Drafting Unit :=
  ifApplies subject do
    let bound ← keyword subject name
    checkNumber name " must be a number" bound
    fillLength subject
    branch subject (.relates (subject.slot ++ "_len") relation ⟨bound⟩) do
      complainOf subject (words ++ shown bound ++ noun)

/-- Items that are all unlike each other. -/
def uniqueItems (subject : Subject) : Drafting Unit := do
  if (← keyword subject "uniqueItems").isTrue then
    ifList subject do
      act subject .likeness
      fillLength subject
      branch subject (.repeats (subject.slot ++ "_len") subject.slot) do
        complainOf subject " must contain unique items"

/-- Writes the plan of a definition for the items of a list from an index on. -/
def eachItem (draft : Drafter) (subject : Subject) (definition : Value) (start : Option Nat) :
    Drafting Unit := do
  let index := subject.slot ++ "_x"
  let item := subject.slot ++ "_item"
  each subject (.items index item subject.slot start) do
    let place := subject.place ++ "[\x7b" ++ index ++ "\x7d]"
    let isEmpty ← draft false ⟨definition, item, place⟩
    if isEmpty then act subject .skip

/-- The standard value that a definition gives for what is missing. -/
def standardOf : Value → Option Value
  | .map entries => Value.lookup? entries "default"
  | _ => none

/-- Definitions of the items of a list. -/
def items (draft : Drafter) (subject : Subject) : Drafting Unit := do
  let definition ← keyword subject "items"
  match definition with
  | .bool true => pure ()
  | definition =>
    ifList subject do
      fillLength subject
      let length := subject.slot ++ "_len"
      match definition with
      | .bool false =>
        branch subject (.isTrue subject.slot) do complainOf subject " must not be there"
      | .list definitions => do
        definitions.zipIdx.forM fun (definition, index) => do
          let slot := subject.slot ++ "__" ++ toString index
          branch subject (.relates length .greater ⟨.int index⟩) do
            act subject (.item slot subject.slot index)
            let _ ← draft false ⟨definition, slot, subject.place ++ "[" ++ toString index ++ "]"⟩
          if let some value := standardOf definition then
            otherwise subject (.append subject.slot ⟨value⟩)
        if ← (Fault.lift (subject.definition.holds "additionalItems") : Except Fault Bool) then
          match ← keyword subject "additionalItems" with
          | .bool false =>
            branch subject (.relates length .greater ⟨.int definitions.length⟩) do
              complainOf subject " must contain only specified items"
          | others => eachItem draft subject others (some definitions.length)
      | definition => if definition.isTrue then eachItem draft subject definition none

/-- Whether a key matches one of the patterns that a definition has for keys. -/
def matchesAny (key : Value) : List Value → Drafting Bool
  | [] => pure false
  | .text text :: rest => do
    let pattern ← patternOf text.toList
    match key with
    | .text key => if pattern.occursIn key then pure true else matchesAny (.text key) rest
    | .bytes _ => refuse "cannot use a string pattern on a bytes-like object"
    | key => refuse ("expected string or bytes-like object, got '" ++ key.typeName ++ "'")
  | _ => refuse "first argument must be string or compiled pattern"

/-- Whether a key is among what a definition has under a keyword. -/
def isNamed (key : Value) (named : Value) : Drafting Bool :=
  match key, named with
  | .text key, named => (Fault.lift (named.holds key) : Except Fault Bool)
  | key, .map entries =>
    if key.isKey then pure (entries.any fun (other, _) => other.equals key)
    else refuse key.noKey.message
  | key, .list items => pure (items.any (·.equals key))
  | key, .text _ =>
    refuse ("'in <string>' requires string as left operand, not " ++ key.typeName)
  | _, named => refuse ("argument of type '" ++ named.typeName ++ "' is not iterable")

/-- The keys among those required that no other keyword allows. -/
def impossible (subject : Subject) (keys : List Value) : Drafting (List Value) :=
  keys.filterM fun key => do
    if ← isNamed key (← keywordOr subject "properties" (.map [])) then pure false
    else
      let patterns ← keywordOr subject "patternProperties" (.map [])
      let patterns ← (Fault.lift patterns.itemsIn : Except Fault (List Value))
      pure (!(← matchesAny key patterns))

/-- The keys that a mapping must have. -/
def required (subject : Subject) : Drafting Unit :=
  ifMap subject do
    let value ← keyword subject "required"
    let keys ← match value with
      | .list keys => pure keys
      | .tuple keys => pure keys
      | _ => refuse "required must be an array"
    if let some key := keys.find? fun key => !key.isKey then refuse key.noKey.message
    if (Value.itemsOf keys).length ≠ keys.length then
      refuse "required must contain unique elements"
    if !(← keywordOr subject "additionalProperties" (.bool true)).isTrue then
      let found ← impossible subject keys
      if !found.isEmpty then
        refuse (subject.slot ++ ": items " ++ (Value.list found).literal ++
          " are required but not allowed")
    let slot := subject.slot ++ "__missing_keys"
    act subject (.missing slot ⟨value⟩ subject.slot)
    branch subject (.isTrue slot) do
      complain subject [.place, .inscription " must contain ", .sorted slot,
        .inscription " properties"]

/-- The entries that a keyword has. -/
def entriesAt (subject : Subject) (name : String) : Drafting (List (Value × Value)) := do
  let value ← keyword subject name
  (Fault.lift (value.entriesBy "items") : Except Fault (List (Value × Value)))

/-- What keys ask for where they are there. -/
def dependencies (draft : Drafter) (subject : Subject) : Drafting Unit :=
  ifMap subject do
    let entries ← entriesAt subject "dependencies"
    let entries := entries.filter fun (_, needed) =>
      match needed with
      | .bool true => false
      | needed => !needed.equals (.list [])
    entries.forM fun (key, needed) => do
      let key := key.plain
      branch subject (.hasKey key subject.slot) do
        match needed with
        | .bool false =>
          complain subject [.inscription key, .inscription " in ", .place,
            .inscription " must not be there"]
        | .list names =>
          names.forM fun name => do
            let name := name.plain
            branch subject (.lacksKey name subject.slot) do
              complain subject [.place, .inscription " missing dependency ", .inscription name,
                .inscription " for ", .inscription key]
        | definition => do
          let _ ← draft true { subject with definition := definition }
    if entries.isEmpty then act subject .skip

/-- A key without the characters that cannot stand in the name of a slot. -/
def nameOf (key : String) : String := String.ofList (key.toList.filter Char.isAlphanum)

/-- Definitions of the values under keys. -/
def properties (draft : Drafter) (subject : Subject) : Drafting Unit :=
  ifMap subject do
    fillKeys subject
    let entries ← entriesAt subject "properties"
    entries.forM fun (key, definition) => do
      let key := key.plain
      match definition with
      | .map _ | .bool _ => pure ()
      | _ => refuse (subject.slot ++ "[" ++ nameOf key ++ "] must be object")
      let keys := subject.slot ++ "_keys"
      let slot := subject.slot ++ "__" ++ nameOf key
      branch subject (.hasKey key keys) do
        act subject (.forget keys key)
        act subject (.entry slot subject.slot key)
        let _ ← draft true ⟨definition, slot, subject.place ++ "." ++ key⟩
      if let some value := standardOf definition then
        otherwise subject (.insert subject.slot key ⟨value⟩)

/-- The place of a value under a key that a slot holds. -/
def heldPlace (subject : Subject) : String :=
  subject.place ++ ".\x7b" ++ subject.slot ++ "_key\x7d"

/-- Definitions of the values under keys that match patterns. -/
def patternProperties (draft : Drafter) (subject : Subject) : Drafting Unit :=
  ifMap subject do
    fillKeys subject
    let entries ← entriesAt subject "patternProperties"
    let entries := entries.map fun (pattern, definition) => (pattern.plain, definition)
    entries.forM fun (text, _) => know text text.toList
    let key := subject.slot ++ "_key"
    let value := subject.slot ++ "_val"
    let keys := subject.slot ++ "_keys"
    each subject (.entries key value subject.slot) do
      entries.forM fun (text, definition) =>
        branch subject (.occurs text key) do
          branch subject (.hasHeld key keys) do act subject (.forgetHeld keys key)
          let _ ← draft true ⟨definition, value, heldPlace subject⟩

/-- A definition of the values under all other keys. -/
def additionalProperties (draft : Drafter) (subject : Subject) : Drafting Unit :=
  ifMap subject do
    fillKeys subject
    let definition ← keyword subject "additionalProperties"
    let isOpen := match definition with
      | .bool true => true
      | definition => definition.equals (.map [])
    let keys := subject.slot ++ "_keys"
    if isOpen then pure ()
    else if definition.isTrue then do
      let named ← keywordOr subject "properties" (.map [])
      let entries ← (Fault.lift (named.entriesBy "keys") : Except Fault (List (Value × Value)))
      let key := subject.slot ++ "_key"
      let value := subject.slot ++ "_value"
      each subject (.members key keys) do
        branch subject (.notAmong key ⟨.list (entries.map (·.1))⟩) do
          act subject (.entryHeld value subject.slot key)
          let _ ← draft true ⟨definition, value, heldPlace subject⟩
    else
      branch subject (.isTrue keys) do
        complain subject [.place, .inscription " must not contain ", .slot keys,
          .inscription " properties"]

/-- A definition of the keys of a mapping. -/
def propertyNames (draft : Drafter) (subject : Subject) : Drafting Unit := do
  match ← keywordOr subject "propertyNames" (.map []) with
  | .bool true => pure ()
  | .bool false => do
    fillKeys subject
    branch subject (.isTrue (subject.slot ++ "_keys")) do
      complainOf subject " must not be there"
  | definition =>
    ifMap subject do
      fillLength subject
      let flag := subject.slot ++ "_property_names"
      let key := subject.slot ++ "_key"
      branch subject (.differs (subject.slot ++ "_len") ⟨.int 0⟩) do
        act subject (.set flag ⟨.bool true⟩)
        each subject (.members key subject.slot) do
          let body : Drafting Unit := do
            let _ ← draft true ⟨definition, key, subject.place⟩
          attempt subject body false (some (act subject (.set flag ⟨.bool false⟩))) none
        branch subject (.isFalse flag) do
          complainOf subject " must be named by propertyName definition"

/-- A definition that one of the items keeps. -/
def contains (draft : Drafter) (subject : Subject) : Drafting Unit :=
  ifList subject do
    match ← keyword subject "contains" with
    | .bool false => complainOf subject " is always invalid"
    | .bool true =>
      branch subject (.isFalse subject.slot) do complainOf subject " must not be empty"
    | definition => do
      let flag := subject.slot ++ "_contains"
      let item := subject.slot ++ "_key"
      act subject (.set flag ⟨.bool false⟩)
      each subject (.members item subject.slot) do
        let body : Drafting Unit := do
          let _ ← draft true ⟨definition, item, subject.place⟩
          act subject (.set flag ⟨.bool true⟩)
          act subject .leave
        attempt subject body false none none
      branch subject (.isFalse flag) do
        complainOf subject " must contain one of contains definition"

/-- The only value that is allowed. -/
def const (subject : Subject) : Drafting Unit := do
  let value ← keyword subject "const"
  let test : Test := match value with
    | .text text => .differsText subject.slot text
    | value => .differs subject.slot ⟨value⟩
  branch subject test do
    complain subject [.place, .inscription " must be same as const definition: ",
      .inscription (shown value)]

/-- A definition that chooses between two others. -/
def conditional (draft : Drafter) (subject : Subject) : Drafting Unit := do
  checkWritable subject
  let definition (name : String) : Drafting Unit := do
    let _ ← draft true { subject with definition := ← keyword subject name }
  let has (name : String) : Drafting Bool :=
    (Fault.lift (subject.definition.holds name) : Except Fault Bool)
  let otherwise := if ← has "else" then definition "else" else act subject .skip
  let then? := if ← has "then" then some (definition "then") else none
  attempt subject (definition "if") false (some otherwise) then?

/-- Writes statements that decode a value, and a complaint for one that cannot be decoded. -/
def decoding (subject : Subject) (coding : Coding) (preparation : Drafting Unit) (words : String) :
    Drafting Unit :=
  let body : Drafting Unit := do
    preparation
    act subject (.decode coding subject.slot)
  attempt subject body true (some (complainOf subject words)) none

/-- The coding of a text. -/
def contentEncoding (subject : Subject) : Drafting Unit := do
  if (← keyword subject "contentEncoding").equals (.text "base64") then
    branch subject (.isText subject.slot) do
      decoding subject .base64 (act subject (.prepare .base64)) " must be encoded by base64"
      branch subject (.isEmptyText subject.slot) do
        complain subject [.inscription "contentEncoding must be base64"]

/-- The kind of document in a text. -/
def contentMediaType (subject : Subject) : Drafting Unit := do
  if (← keyword subject "contentMediaType").equals (.text "application/json") then
    branch subject (.isOctets subject.slot) do
      decoding subject .utf8 (pure ()) " must encoded by utf8"
    branch subject (.isText subject.slot) do
      decoding subject .json (act subject (.prepare .json)) " must be valid JSON"

/-- Writes what a keyword of a definition asks for. -/
def apply (draft : Drafter) (subject : Subject) : String → Drafting Unit
  | "type" => type subject
  | "enum" => enum subject
  | "allOf" => allOf draft subject
  | "anyOf" => anyOf draft subject
  | "oneOf" => oneOf draft subject
  | "not" => not draft subject
  | "minLength" => textLength subject "minLength" .less " must be longer than or equal to "
  | "maxLength" => textLength subject "maxLength" .greater " must be shorter than or equal to "
  | "pattern" => pattern subject
  | "format" => format subject
  | "minimum" => amount subject "minimum" "exclusiveMinimum" .less .lessOrEqual
      " must be bigger than or equal to " " must be bigger than "
  | "maximum" => amount subject "maximum" "exclusiveMaximum" .greater .greaterOrEqual
      " must be smaller than or equal to " " must be smaller than "
  | "multipleOf" => multipleOf subject
  | "minItems" => count subject ifList "minItems" .less " must contain at least " " items"
  | "maxItems" =>
    count subject ifList "maxItems" .greater " must contain less than or equal to " " items"
  | "uniqueItems" => uniqueItems subject
  | "items" => items draft subject
  | "minProperties" =>
    count subject ifMap "minProperties" .less " must contain at least " " properties"
  | "maxProperties" =>
    count subject ifMap "maxProperties" .greater " must contain less than or equal to "
      " properties"
  | "required" => required subject
  | "dependencies" => dependencies draft subject
  | "properties" => properties draft subject
  | "patternProperties" => patternProperties draft subject
  | "additionalProperties" => additionalProperties draft subject
  | "exclusiveMinimum" =>
    strictAmount subject "exclusiveMinimum" .lessOrEqual " must be bigger than "
  | "exclusiveMaximum" =>
    strictAmount subject "exclusiveMaximum" .greaterOrEqual " must be smaller than "
  | "propertyNames" => propertyNames draft subject
  | "contains" => contains draft subject
  | "const" => const subject
  | "if" => conditional draft subject
  | "contentEncoding" => contentEncoding subject
  | "contentMediaType" => contentMediaType subject
  | _ => pure ()

/-! ## Definitions -/

/-- The scope that a reference leads to; a reference that is no text leads nowhere. -/
def scopeOf (catalog : Catalog) (reference : Value) : Except Fault (List Char) :=
  match reference with
  | .text text => Catalog.address (Address.complete? catalog.scope text.toList)
  | reference =>
    if catalog.scope.isEmpty then do
      let _ ← Fault.lift (reference.holds "%")
      .error (.ofFailure (reference.noMember "split"))
    else if reference.isTrue then invalid "Cannot mix str and non-str arguments"
    else .ok catalog.scope

/-- Writes the call of the plan that a reference leads to. -/
def reference (subject : Subject) : Drafting Unit := do
  let catalog := (← get).catalog
  let target ← keyword subject "$ref"
  let scope ← (scopeOf catalog target : Except Fault (List Char))
  let name := Catalog.planName scope
  let place ← (Catalog.location { catalog with scope := scope } : Except Fault (List Char))
  let draft ← get
  if !draft.done.contains place then
    let waiting :=
      if (draft.waiting.lookup place).isSome then draft.waiting
      else draft.waiting ++ [(place, name)]
    set { draft with waiting := waiting }
  act subject (.call name subject.slot subject.place)

/-- Writes what the keywords of a definition ask for; tells whether there are none. -/
def applyKeywords (draft : Drafter) (subject : Subject) : Drafting Bool := do
  let mut isEmpty := true
  for name in (← get).edition.keywords do
    if ← (Fault.lift (subject.definition.holds name) : Except Fault Bool) then
      apply draft subject name
      isEmpty := false
  pure isEmpty

/-- Writes the plan of a definition. The fourth edition tells definitions without keywords and takes
mappings only. -/
def body (draft : Drafter) (subject : Subject) : Drafting Bool := do
  if (← get).edition = .fourth then
    match subject.definition with
    | .map entries =>
      if (Value.lookup? entries "$ref").isSome then
        reference subject
        pure false
      else applyKeywords draft subject
    | _ => refuse "definition must be an object"
  else
    match subject.definition with
    | .bool true => act subject .skip
    | .bool false => complainOf subject " must not be there"
    | definition =>
      if ← (Fault.lift (definition.holds "$ref") : Except Fault Bool) then reference subject
      else
        let _ ← applyKeywords draft subject
    pure false

/-- What drafts definitions up to a depth. -/
def drafter : Nat → Drafter
  | 0, _, _ => pure false
  | depth + 1, fresh, subject => do
    let slots := (← get).slots
    if fresh then modify fun draft => { draft with slots := [] }
    let isEmpty ← body (drafter depth) subject
    if fresh then modify fun draft => { draft with slots := slots }
    pure isEmpty

/-- Drafts the plans that are waiting, the latest first, after those that are complete. The count
bounds the plans. -/
def complete : Nat → List (String × List Statement) → Drafting (List (String × List Statement))
  | 0, parts => pure parts
  | count + 1, parts => do
    let draft ← get
    match draft.waiting.getLast? with
    | none => pure parts
    | some (place, name) => do
      let (catalog, definition) ← (draft.catalog.find place : Except Fault (Catalog × Value))
      set { draft with
        waiting := draft.waiting.dropLast, done := place :: draft.done, catalog := catalog,
        statements := [], last := .other }
      let _ ← drafter (definition.depth + 1) true ⟨definition, "data", ""⟩
      let statements := (← get).statements.reverse
      modify fun state => { state with catalog := draft.catalog }
      complete count (parts ++ [(name, statements)])

mutual

/-- How many values a value is made of. -/
def size : Value → Nat
  | .list items => sizeOfAll items + 1
  | .map entries => sizeOfEntries entries + 1
  | _ => 1

/-- How many values a list of values is made of. -/
def sizeOfAll : List Value → Nat
  | [] => 0
  | item :: rest => size item + sizeOfAll rest

/-- How many values entries are made of. -/
def sizeOfEntries : List (Value × Value) → Nat
  | [] => 0
  | (_, item) :: rest => size item + sizeOfEntries rest

end

end Drafting

/-- The plan of a definition. A reference is completed from the whole or from one of the named
definitions, so there are no more plans than pairs of values. -/
def Plan.ofDefinition (definition : Value) : Except Fault Plan := do
  let catalog ← Catalog.ofDefinition definition
  let edition ← Edition.ofDefinition definition
  Catalog.checkIdentity definition
  let entry := Catalog.planName catalog.scope
  let place ← catalog.location
  let count := (Drafting.size definition + 1) * (Drafting.size definition + 1)
  let start : Draft := { edition := edition, catalog := catalog, waiting := [(place, entry)] }
  let (parts, draft) ← (Drafting.complete count []).run start
  pure ⟨entry, parts, draft.patterns⟩

end Hexwire.Schema
