import Hexwire.Bytes.Hex
import Hexwire.Text.Unprintable

/-! # Quoted literals

Messages show text and octets as literals. A literal stands between apostrophes, or between
quotation marks when the text has an apostrophe and no quotation mark. The mark in use and the
backslash are escaped by a backslash, line feed, carriage return and tab have letters of their own,
and a character that cannot be shown is written by its code in two, four or eight digits.
-/

namespace Hexwire.Text

/-- The mark that a literal of the given characters stands between. -/
def quoteMark (text : List Char) : Char :=
  if text.contains '\'' && !text.contains '"' then '"' else '\''

/-- A character by its code, in the shortest of the three widths. -/
def codeEscape (c : Char) : List Char :=
  let code := c.toNat
  if code < 0x100 then '\\' :: 'x' :: (Hex.padded 2 code).toList
  else if code < 0x10000 then '\\' :: 'u' :: (Hex.padded 4 code).toList
  else '\\' :: 'U' :: (Hex.padded 8 code).toList

/-- One character inside a literal with the given mark. -/
def quoteChar (hidden : Char → Bool) (mark c : Char) : List Char :=
  if c = mark || c = '\\' then ['\\', c]
  else if c = '\n' then ['\\', 'n']
  else if c = '\r' then ['\\', 'r']
  else if c = '\t' then ['\\', 't']
  else if hidden c then codeEscape c
  else [c]

/-- The literal of characters, of which those that satisfy `hidden` are written by their codes. -/
def quoteWith (hidden : Char → Bool) (text : List Char) : String :=
  let mark := quoteMark text
  String.ofList (mark :: text.flatMap (quoteChar hidden mark) ++ [mark])

/-- The literal of text. -/
def quoted (text : String) : String := quoteWith isUnprintable text.toList

/-- The literal of octets: those outside printable ASCII are written by their codes, and the letter
b stands in front. -/
def quotedBytes (data : Bytes) : String :=
  "b" ++ quoteWith (fun c => c < ' ' || '~' < c) (data.map Hex.charOfOctet)

end Hexwire.Text
