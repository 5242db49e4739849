import Hexwire.Document.Yaml.Literal
import Hexwire.Schema.Address
import Hexwire.Schema.Fault

/-! # References between definitions

A definition can refer to another by an address. The addresses of the definitions inside a mapping
are completed from the name of the nearest definition around them that has one, and definitions with
names are kept under them. A reference is looked up among those, or else in the document at hand;
what the fragment of its address names is reached from there step by step. No other document is
fetched.
-/

namespace Hexwire.Schema

/-- The definitions that references lead to. -/
structure Catalog where
  /-- The address of the document at hand. -/
  base : List Char
  /-- The address from which references are completed. -/
  scope : List Char
  /-- The document at hand. -/
  document : Value
  /-- Definitions under their names, the latest last. -/
  named : List (List Char × Value)

namespace Catalog

/-- The address that an operation gives, unless the brackets of an authority do not match. -/
def address {α : Type} : Option α → Except Fault α
  | some found => .ok found
  | none => .error (.failed (.ofText .value "Invalid IPv6 URL"))

/-- The name in the entries of a definition; where none is given it is empty. -/
def identity (entries : List (Value × Value)) : Value :=
  (Value.lookup? entries "$id").getD ((Value.lookup? entries "id").getD (.text ""))

/-- The name of a definition that has one. -/
def identity? (entries : List (Value × Value)) : Option String :=
  if (Value.lookup? entries "$id").isSome || (Value.lookup? entries "id").isSome then
    match identity entries with
    | .text name => some name
    | _ => none
  else none

mutual

/-- A definition whose references are completed from a scope, and the named definitions in it. -/
def anchor (scope : List Char) : Value → Except Fault (Value × List (List Char × Value))
  | .map entries =>
    match Value.lookup? entries "$ref" with
    | some (.text reference) => do
      let target ← address (Address.complete? scope reference.toList)
      let entries := Value.insertEntry entries (.text "$ref") (.text (String.ofList target))
      pure (.map entries, [])
    | _ => match identity? entries with
      | some name => do
        let own ← address (Address.complete? scope name.toList)
        let key ← address (Address.normal? own)
        let (entries, found) ← anchorEntries own entries
        pure (.map entries, (key, .map entries) :: found)
      | none => do
        let (entries, found) ← anchorEntries scope entries
        pure (.map entries, found)
  | value => .ok (value, [])

/-- Entries whose references are completed from a scope, and the named definitions in them. -/
def anchorEntries (scope : List Char) :
    List (Value × Value) → Except Fault (List (Value × Value) × List (List Char × Value))
  | [] => .ok ([], [])
  | (key, value) :: rest => do
    let (value, found) ← anchor scope value
    let (others, more) ← anchorEntries scope rest
    pure ((key, value) :: others, found ++ more)

end

mutual

/-- Whether a definition refers to others or names some, with texts that are not empty. -/
def isLinked : Value → Bool
  | .map entries =>
    let isText (key : String) : Bool := match Value.lookup? entries key with
      | some (.text s) => !s.isEmpty
      | _ => false
    isText "$ref" || (match identity? entries with
      | some name => !name.isEmpty
      | none => false) || anyLinked entries
  | _ => false

/-- Whether one of the values of entries refers to others or names some. -/
def anyLinked : List (Value × Value) → Bool
  | [] => false
  | (_, value) :: rest => isLinked value || anyLinked rest

end

/-- Checks that a value can be searched for references at all. -/
def checkSearchable (value : Value) : Except Fault Unit := do
  match value with
  | .bool _ => pure ()
  | .map _ => pure ()
  | value =>
    if ← Fault.lift (value.holds "$ref") then
      let _ ← Fault.lift (value.under "$ref")
    let isNamed := (← Fault.lift (value.holds "$id")) || (← Fault.lift (value.holds "id"))
    .error (.ofFailure (value.noMember (if isNamed then "get" else "items")))

/-- The catalog of a definition. -/
def ofDefinition (definition : Value) : Except Fault Catalog := do
  checkSearchable definition
  let entries := match definition with
    | .map entries => entries
    | _ => []
  match identity entries with
  | .text name => do
    let (document, named) ← anchor name.toList definition
    pure ⟨name.toList, name.toList, document, named⟩
  | name =>
    if name.isTrue && isLinked definition then
      invalid "Cannot mix str and non-str arguments"
    else do
      let (document, named) ← anchor [] definition
      pure ⟨[], [], document, named⟩

/-- Checks that the name of a definition is a text. -/
def checkIdentity (definition : Value) : Except Fault Unit :=
  let entries := match definition with
    | .map entries => entries
    | _ => []
  match identity entries with
  | .text _ => .ok ()
  | name => do
    if ← Fault.lift (name.holds "%") then
      invalid ("expected string or bytes-like object, got '" ++ name.typeName ++ "'")
    else .error (.ofFailure (name.noMember "split"))

/-- The last definition under a name. -/
def lookup? (catalog : Catalog) (name : List Char) : Option Value :=
  catalog.named.reverse.lookup name

/-- The failure of a document that is not at hand. -/
def unreachable (target : List Char) : Fault :=
  let kind := target.takeWhile fun c => c ≠ '/' && c ≠ ':'
  let text := String.ofList target
  if target[kind.length]? = some ':' && !kind.isEmpty then
    let kind := kind.map Char.toLower
    let reason :=
      if kind = ['h', 't', 't', 'p'] || kind = ['h', 't', 't', 'p', 's'] then
        "[Errno -3] Temporary failure in name resolution"
      else "unknown url type: " ++ String.ofList kind
    .failed (.ofText .url ("<urlopen error " ++ reason ++ ">"))
  else .failed (.ofText .value ("unknown url type: " ++ Text.quoted text))

/-- The value under a step inside a definition. -/
def descend (value : Value) (step : List Char) : Except Fault Value := do
  let step := unescape step
  match value with
  | .list items => match Integer.parse 10 step with
    | .ok index =>
      let place := if index < 0 then index + items.length else index
      match (if place < 0 then none else items[place.toNat]?) with
      | some item => .ok item
      | none => .error (.failed (.ofText .index "list index out of range"))
    | .error fault => .error (.failed (Document.integerFailure 10 step fault))
  | value =>
    let key := String.ofList step
    if ← Fault.lift (value.holds key) then Fault.lift (value.under key)
    else invalid ("Unresolvable ref: " ++ key)
where
  /-- A step with its escapes of slashes and tildes taken. -/
  unescape : List Char → List Char
    | '~' :: '1' :: rest => '/' :: unescape rest
    | '~' :: '0' :: rest => '~' :: unescape rest
    | c :: rest => c :: unescape rest
    | [] => []

/-- The definition that a fragment names inside a document. -/
def follow (document : Value) (fragment : List Char) : Except Fault Value :=
  match fragment.dropWhile (· = '/') with
  | [] => .ok document
  | path => (Address.segments (Address.plain path)).foldlM descend document

/-- The definition that a reference leads to, with the catalog as it stands there. -/
def find (catalog : Catalog) (reference : List Char) : Except Fault (Catalog × Value) := do
  let whole ← address (Address.complete? catalog.scope reference)
  let (target, fragment) ← address (Address.split? whole)
  let stored ←
    if target.isEmpty then pure none
    else do pure (catalog.lookup? (← address (Address.normal? target)))
  let document ← match stored with
    | some document => pure document
    | none =>
      if target.isEmpty || target = catalog.base then pure catalog.document
      else .error (unreachable target)
  let scope ← address (Address.complete? catalog.scope target)
  let definition ← follow document fragment
  pure ({ catalog with base := target, scope := scope, document := document }, definition)

/-- The address under which the scope is known. -/
def location (catalog : Catalog) : Except Fault (List Char) :=
  address (Address.normal? catalog.scope)

/-- The name of the plan for a scope: letters and digits of the address, with low lines between. -/
def planName (scope : List Char) : String :=
  let spaced := (withoutEscapes (Address.plain scope)).map fun c =>
    if c.isAlphanum then c.toLower else '_'
  let name := "validate_".toList ++ spaced
  String.ofList (name.reverse.dropWhile (· = '_')).reverse
where
  /-- Text with each escape as one low line and without quotation marks. -/
  withoutEscapes : List Char → List Char
    | '~' :: '1' :: rest => '_' :: withoutEscapes rest
    | '~' :: '0' :: rest => '_' :: withoutEscapes rest
    | '"' :: rest => withoutEscapes rest
    | c :: rest => c :: withoutEscapes rest
    | [] => []

end Catalog

end Hexwire.Schema
