import Hexwire.Text.Search
import Hexwire.Value.Equality
import Hexwire.Value.Printer

/-! # Access to values of unknown kind

Looking into a value whose kind is not what is asked for is a failure that names the kind. A value
of pairs can be taken for a mapping.
-/

namespace Hexwire.Value

/-- A failure because a value has the wrong kind. -/
def wrongKind (text : String) : Failure := .ofText .type text

/-- The failure of a value that lacks a member. -/
def noMember (value : Value) (member : String) : Failure :=
  .ofText .missingAttribute
    ("'" ++ value.typeName ++ "' object has no attribute '" ++ member ++ "'")

/-- The items of a value that is gone through. -/
def itemsIn : Value → Except Failure (List Value)
  | .list items => .ok items
  | .tuple items => .ok items
  | .set items => .ok items
  | .map entries => .ok (entries.map (·.1))
  | .text s => .ok (s.toList.map fun c => .text c.toString)
  | .bytes data => .ok (data.map fun octet => .int octet.toNat)
  | value => .error (wrongKind ("'" ++ value.typeName ++ "' object is not iterable"))

/-- How many items a value has. -/
def count : Value → Except Failure Nat
  | .list items => .ok items.length
  | .tuple items => .ok items.length
  | .set items => .ok items.length
  | .map entries => .ok entries.length
  | .text s => .ok s.length
  | .bytes data => .ok data.length
  | value => .error (wrongKind ("object of type '" ++ value.typeName ++ "' has no len()"))

/-- Whether a text is among what a value holds: its keys, its items or its runs of characters. -/
def holds (value : Value) (key : String) : Except Failure Bool :=
  match value with
  | .map entries => .ok (lookup? entries key).isSome
  | .list items => .ok (items.any (·.equals (.text key)))
  | .tuple items => .ok (items.any (·.equals (.text key)))
  | .set items => .ok (items.any (·.equals (.text key)))
  | .text s => .ok (Text.mentions s key)
  | .bytes _ => .error (wrongKind "a bytes-like object is required, not 'str'")
  | value =>
    .error (wrongKind ("argument of type '" ++ value.typeName ++ "' is not iterable"))

/-- The value under a key, if the value has keys. -/
def under (value : Value) (key : String) : Except Failure Value :=
  let indices (noun : String) : Except Failure Value :=
    .error (wrongKind (noun ++ " must be integers or slices, not str"))
  match value with
  | .map entries => match lookup? entries key with
    | some found => .ok found
    | none => .error (.ofText .key key)
  | .text _ => .error (wrongKind "string indices must be integers, not 'str'")
  | .list _ => indices "list indices"
  | .tuple _ => indices "tuple indices"
  | .bytes _ => indices "byte indices"
  | value => .error (wrongKind ("'" ++ value.typeName ++ "' object is not subscriptable"))

/-- The entries of a mapping; the member is the one that other kinds lack. -/
def entriesBy (member : String) : Value → Except Failure (List (Value × Value))
  | .map entries => .ok entries
  | value => .error (noMember value member)

/-- The value under a key of a mapping, or another where the key is missing. -/
def getOr (value : Value) (key : String) (standard : Value) : Except Failure Value :=
  (value.entriesBy "get").map fun entries => (lookup? entries key).getD standard

/-- The failure of a value that cannot be a key. -/
def noKey (value : Value) : Failure := wrongKind ("unhashable type: '" ++ value.typeName ++ "'")

/-- The entries that pairs make, the first of which has the given number. -/
def entriesOfPairs : Nat → List Value → Except Failure (List (Value × Value))
  | _, [] => .ok []
  | index, pair :: rest => do
    let element := "dictionary update sequence element #" ++ toString index
    match pair.itemsIn with
    | .error _ => .error (wrongKind ("cannot convert " ++ element ++ " to a sequence"))
    | .ok [key, item] =>
      if key.isKey then do
        let others ← entriesOfPairs (index + 1) rest
        pure ((key, item) :: others)
      else .error (noKey key)
    | .ok items =>
      .error (.ofText .value (element ++ " has length " ++ toString items.length ++
        "; 2 is required"))

/-- The entries of a mapping, or those that a sequence of pairs makes. -/
def toEntries : Value → Except Failure (List (Value × Value))
  | .map entries => .ok entries
  | value => do
    let pairs ← entriesOfPairs 0 (← value.itemsIn)
    pure (entriesOf pairs)

end Hexwire.Value
