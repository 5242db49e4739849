import Hexwire.Value.Layout

/-! # Placeholders in text

Braces in a text hold the name of a value that takes their place; doubled braces stand for single
ones. After the name come steps into the value, a letter that chooses how it is written, and a
layout of fill, side and width. Values have names only, so a placeholder that is empty or a number
finds nothing.
-/

namespace Hexwire.Text.Placeholder

/-- A placeholder as it is written. -/
structure Field where
  name : List Char
  conversion : Option Char
  layout : List Char

/-- A failure of a text with placeholders. -/
def malformed {α : Type} (text : String) : Except Failure α := .error (.ofText .value text)

/-- The name of a placeholder, the character that ends it and what comes after; an opening bracket
takes everything up to its closing one. -/
def cutName : Bool → List Char → List Char → Except Failure (List Char × Option Char × List Char)
  | _, name, [] => .ok (name.reverse, none, [])
  | true, name, c :: rest => cutName (c ≠ ']') (c :: name) rest
  | false, name, c :: rest =>
    if c = '\x7b' then malformed "unexpected '\x7b' in field name"
    else if c = '\x7d' || c = ':' || c = '!' then .ok (name.reverse, some c, rest)
    else cutName (c = '[') (c :: name) rest

/-- The layout of a placeholder up to the brace that closes it, and what comes after; the count is
that of open braces. -/
def cutLayout : Nat → List Char → List Char → Except Failure (List Char × List Char)
  | _, _, [] => malformed "unmatched '\x7b' in format spec"
  | depth, layout, c :: rest =>
    if c = '\x7d' then
      if depth = 0 then .ok (layout.reverse, rest) else cutLayout (depth - 1) (c :: layout) rest
    else cutLayout (if c = '\x7b' then depth + 1 else depth) (c :: layout) rest

/-- The placeholder after an opening brace, and what comes after it. -/
def cutField (text : List Char) : Except Failure (Field × List Char) := do
  match ← cutName false [] text with
  | (name, some '\x7d', rest) => pure (⟨name, none, []⟩, rest)
  | (name, some ':', rest) => do
    let (layout, rest) ← cutLayout 0 [] rest
    pure (⟨name, none, layout⟩, rest)
  | (name, some _, rest) =>
    match rest with
    | [] => malformed "end of string while looking for conversion specifier"
    | [_] => malformed "unmatched '\x7b' in format spec"
    | conversion :: c :: rest =>
      if c = '\x7d' then pure (⟨name, some conversion, []⟩, rest)
      else if c = ':' then do
        let (layout, rest) ← cutLayout 0 [] rest
        pure (⟨name, some conversion, layout⟩, rest)
      else malformed "expected ':' after conversion specifier"
  | _ => malformed "expected '\x7d' before end of string"

/-- The number that a name is, if it consists of digits. -/
def index? (name : List Char) : Except Failure (Option Nat) :=
  match name with
  | [] => .ok none
  | name => match name.mapM decimalDigit? with
    | none => .ok none
    | some digits =>
      let value := digits.foldl (fun total digit => 10 * total + digit) 0
      if Nat.pow 2 63 ≤ value then malformed "Too many decimal digits in format string"
      else .ok (some value)

/-- The item of a value under a number. -/
def itemAt (value : Value) (index : Nat) : Except Failure Value :=
  let among (noun : String) (items : List Value) : Except Failure Value :=
    match items[index]? with
    | some item => .ok item
    | none => .error (.ofText .index (noun ++ " index out of range"))
  match value with
  | .list items => among "list" items
  | .tuple items => among "tuple" items
  | .text s => among "string" (s.toList.map fun c => .text c.toString)
  | .bytes data => match data[index]? with
    | some octet => .ok (.int octet.toNat)
    | none => .error (.ofText .index "index out of range")
  | .map entries => match entries.find? fun (key, _) => key.equals (.int index) with
    | some (_, found) => .ok found
    | none => .error (.host .key [.int index])
  | value => .error (Value.wrongKind ("'" ++ value.typeName ++ "' object is not subscriptable"))

/-- What a name with steps stands for: a value, a kind of values by its full name, or a kind of
collections with what they are to hold. -/
inductive Referent where
  | held (value : Value)
  | kind (name : String)
  | kindOver (name : String) (item : Value)
  deriving Inhabited

namespace Referent

/-- The name of a kind without the module it is from. -/
def shortName (name : String) : String :=
  String.ofList ((name.toList.reverse.takeWhile (· ≠ '.')).reverse)

/-- The kind of what is referred to. -/
def kindOf : Referent → String
  | .held (.date _) => "datetime.date"
  | .held (.moment _) => "datetime.datetime"
  | .held value => value.typeName
  | .kind _ => "type"
  | .kindOver _ _ => "types.GenericAlias"

/-- The parts of a number by name: a whole number is a fraction as well, and any number has an
imaginary part. -/
def numberPart? (value : Value) (name : String) : Option Value :=
  match value, name with
  | .float x, "real" => some (.float x)
  | .float _, "imag" => some (.float (Binary64.zero false))
  | value, "real" | value, "numerator" => value.asInt?.map Value.int
  | value, "imag" => value.asInt?.map fun _ => .int 0
  | value, "denominator" => value.asInt?.map fun _ => .int 1
  | _, _ => none

/-- The name of a kind under the name that kinds give it. -/
def nameOf (full name : String) : Except Failure Referent :=
  if name = "__name__" || name = "__qualname__" then .ok (.held (.text (shortName full)))
  else .error (.ofText .missingAttribute
    ("type object '" ++ full ++ "' has no attribute '" ++ name ++ "'"))

/-- What a name stands for within a referent. -/
def member (r : Referent) (name : String) : Except Failure Referent :=
  if name = "__class__" then .ok (.kind r.kindOf)
  else match r with
    | .held value => match numberPart? value name with
      | some part => .ok (.held part)
      | none => .error (value.noMember name)
    | .kind full => nameOf full name
    | .kindOver full _ => nameOf full name

/-- The text of a kind with what its collections are to hold. -/
def kindOverText (name : String) (item : Value) : String := name ++ "[" ++ item.literal ++ "]"

/-- The kinds that say what they are to hold. -/
def collectionKinds : List String := ["dict", "list", "set", "tuple", "type"]

/-- What lies under a key of a referent, where a function looks into values. -/
def under (r : Referent) (key : Value) (look : Value → Except Failure Value) :
    Except Failure Referent :=
  match r with
  | .held value => (look value).map Referent.held
  | .kind name =>
    if collectionKinds.contains name then .ok (.kindOver name key)
    else .error (Value.wrongKind ("type '" ++ name ++ "' is not subscriptable"))
  | .kindOver name item =>
    .error (Value.wrongKind (kindOverText name item ++ " is not a generic class"))

/-- A kind as text. -/
def kindText (name : String) : String := "<class '" ++ name ++ "'>"

/-- A referent as a conversion letter asks for it. -/
def converted (r : Referent) (conversion : Option Char) : Except Failure Referent :=
  let written (write : Value → String) : Except Failure Referent :=
    match r with
    | .held value => (value.spelled write).map fun text => .held (.text (String.ofList text))
    | .kind name => .ok (.held (.text (kindText name)))
    | .kindOver name item => .ok (.held (.text (kindOverText name item)))
  match conversion with
  | none => .ok r
  | some 's' => written Value.plain
  | some 'r' => written Value.literal
  | some 'a' => written Value.asciiLiteral
  | some c =>
    let shown := if ' ' < c && c < '\x7f' then c.toString else "\\x" ++ String.ofList
      (Nat.toDigits 16 c.toNat)
    malformed ("Unknown conversion specifier " ++ shown)

/-- A referent in a layout, which only values can have. -/
def laidOut (r : Referent) (layout : List Char) : Except Failure (List Char) :=
  let plain (text : String) : Except Failure (List Char) :=
    if layout.isEmpty then .ok text.toList
    else .error (Value.wrongKind
      ("unsupported format string passed to " ++ r.kindOf ++ ".__format__"))
  match r with
  | .held value => value.laidOut layout
  | .kind name => plain (kindText name)
  | .kindOver name item => plain (kindOverText name item)

end Referent

/-- What steps lead to; the count bounds the steps. -/
def descend : Nat → Referent → List Char → Except Failure Referent
  | 0, found, _ => .ok found
  | _, found, [] => .ok found
  | count + 1, found, c :: rest =>
    if c = '.' then
      let name := rest.takeWhile fun d => d ≠ '.' && d ≠ '['
      if name.isEmpty then malformed "Empty attribute in format string"
      else do descend count (← found.member (String.ofList name)) (rest.drop name.length)
    else if c = '[' then do
      let name := rest.takeWhile (· ≠ ']')
      if name.length = rest.length then malformed "Missing ']' in format string"
      else
        match ← index? name with
        | some index => do
          let below ← found.under (.int index) (itemAt · index)
          descend count below (rest.drop (name.length + 1))
        | none =>
          if name.isEmpty then malformed "Empty attribute in format string"
          else do
            let key := String.ofList name
            let below ← found.under (.text key) (·.under key)
            descend count below (rest.drop (name.length + 1))
    else malformed "Only '.' or '[' may follow ']' in format field specifier"

/-- What a name with steps stands for. -/
def referentOf (values : List (String × Value)) (name : List Char) : Except Failure Referent := do
  let first := name.takeWhile fun c => c ≠ '.' && c ≠ '['
  match ← index? first with
  | some index =>
    .error (.ofText .index ("Replacement index " ++ toString index ++
      " out of range for positional args tuple"))
  | none =>
    if first.isEmpty then
      .error (.ofText .index "Replacement index 0 out of range for positional args tuple")
    else match values.lookup (String.ofList first) with
      | some value => descend (name.length + 1) (.held value) (name.drop first.length)
      | none => .error (.ofText .key (String.ofList first))

/-- Fills the placeholders of a text. The first count bounds the placeholders inside layouts and the
second the characters. -/
def fillWith (values : List (String × Value)) :
    Nat → Nat → List Char → Except Failure (List Char)
  | _, 0, _ => .ok []
  | _, _, [] => .ok []
  | depth, count + 1, c :: rest =>
    if c = '\x7d' then
      match rest with
      | '\x7d' :: rest => do pure (c :: (← fillWith values depth count rest))
      | _ => malformed "Single '\x7d' encountered in format string"
    else if c = '\x7b' then
      match rest with
      | [] => malformed "Single '\x7b' encountered in format string"
      | '\x7b' :: rest => do pure (c :: (← fillWith values depth count rest))
      | rest => do
        let (field, rest) ← cutField rest
        let found ← (← referentOf values field.name).converted field.conversion
        let layout ←
          if field.layout.contains '\x7b' then
            match depth with
            | 0 => malformed "Max string recursion exceeded"
            | depth + 1 => fillWith values depth count field.layout
          else pure field.layout
        pure ((← found.laidOut layout) ++ (← fillWith values depth count rest))
    else do pure (c :: (← fillWith values depth count rest))

/-- A text with its placeholders filled by values of given names. -/
def fill (values : List (String × Value)) (text : String) : Except Failure String :=
  (fillWith values 1 (text.length + 1) text.toList).map String.ofList

end Hexwire.Text.Placeholder
