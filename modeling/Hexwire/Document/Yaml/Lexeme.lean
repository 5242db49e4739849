import Hexwire.Bytes.Hex
import Hexwire.Bytes.Utf8
import Hexwire.Document.Yaml.Cursor
import Hexwire.Number.Integer

/-! # Names, tags and directives of YAML

Anchors and aliases are names. A tag has a handle, which directives may define, and a suffix; a tag
between angle brackets and the tag of a single mark have no handle. Suffixes may escape octets by a
percent sign and two digits. Directives announce a version or a handle, any other directive is
ignored.
-/

namespace Hexwire.Document.Yaml

/-- A directive before a document. -/
inductive Directive where
  | version (major minor : Nat)
  | handle (name stem : String)
  | other

/-- A tag as it is written. -/
structure WrittenTag where
  handle : Option String
  suffix : String

namespace Scan

/-- A name that is not empty. -/
def name : Scan String := do
  let taken ← takeWhile isNameChar
  require (!taken.isEmpty)
  pure (String.ofList taken)

/-- Whether a name may end before a character. -/
def endsName : Option Char → Bool
  | none => true
  | some c => endsWord (some c) || "?:,]\x7d%@\x60".toList.contains c

/-- The name of an anchor or alias, after its mark. -/
def reference : Scan String := do
  skip 1
  let taken ← name
  require (endsName (← peek))
  pure taken

/-- Whether a character may stand in a tag as it is. -/
def isUriChar (c : Char) : Bool :=
  c.isAlphanum || "-;/?:@&=+$,_.!~*'()[]".toList.contains c

/-- The octets of consecutive escapes. -/
def escapedOctets : List Char → Option Bytes
  | '%' :: high :: low :: rest => do
    let octet ← Hex.ofDigits? high low
    let others ← escapedOctets rest
    some (octet :: others)
  | '%' :: _ => none
  | _ => some []

/-- The text of a tag, which is not empty. The count bounds the number of runs of escapes. -/
def uri : Nat → Scan (List Char)
  | 0 => pure []
  | fuel + 1 => do
    let taken ← takeWhile isUriChar
    if (← peek) = some '%' then
      match escapedOctets (← get).rest with
      | none => fail
      | some octets => match Utf8.decode octets with
        | .error _ => fail
        | .ok chars => do
          skip (3 * octets.length)
          let others ← uri fuel
          pure (taken ++ chars ++ others)
    else pure taken

/-- The text of a tag or of the stem that a handle stands for. -/
def tagText : Scan String := do
  let start := (← get).index
  let taken ← uri ((← get).rest.length + 1)
  require (start < (← get).index)
  pure (String.ofList taken)

/-- A handle: one mark, or a name between two marks. -/
def handle : Scan String := do
  require ((← peek) = some '!')
  let rest := (← get).rest.drop 1
  if rest.head? = some ' ' then
    skip 1
    pure "!"
  else
    let inner := rest.takeWhile isNameChar
    require (rest[inner.length]? = some '!')
    skip (inner.length + 2)
    pure (String.ofList ('!' :: inner ++ ['!']))

/-- A tag. -/
def tag : Scan WrittenTag := do
  let second := (← get).second?
  let written : WrittenTag ←
    if second = some '<' then do
      skip 2
      let text ← tagText
      require ((← peek) = some '>')
      skip 1
      pure ⟨none, text⟩
    else if endsWord second then do
      skip 1
      pure ⟨none, "!"⟩
    else do
      let word := ((← get).rest.drop 1).takeWhile fun c => !endsField (some c)
      let chosen ← if word.contains '!' then handle else do
        skip 1
        pure "!"
      let text ← tagText
      pure ⟨some chosen, text⟩
  require (endsField (← peek))
  pure written

/-- A number of a version. -/
def versionNumber : Scan Nat := do
  let digits ← takeWhile Char.isDigit
  require (!digits.isEmpty)
  if Integer.digitLimit < digits.length then throw (.failed (tooManyDigits digits.length))
  pure (digits.foldl (fun total c => 10 * total + (c.toNat - 48)) 0)

/-- The parts of a version directive, after its name. -/
def versionDirective : Scan Directive := do
  let _ ← takeWhile (· = ' ')
  let major ← versionNumber
  require ((← peek) = some '.')
  skip 1
  let minor ← versionNumber
  require (endsField (← peek))
  pure (.version major minor)

/-- The parts of a directive that defines a handle, after its name. -/
def handleDirective : Scan Directive := do
  let _ ← takeWhile (· = ' ')
  let defined ← handle
  require ((← peek) = some ' ')
  let _ ← takeWhile (· = ' ')
  let stem ← tagText
  require (endsField (← peek))
  pure (.handle defined stem)

/-- A directive. -/
def directive : Scan Directive := do
  skip 1
  let kind ← name
  require (endsField (← peek))
  let found ←
    if kind = "YAML" then versionDirective
    else if kind = "TAG" then handleDirective
    else do
      let _ ← takeWhile fun c => !isBreak c
      pure .other
  restOfLine
  pure found

end Scan

end Hexwire.Document.Yaml
