import Hexwire.Document.Yaml.Tag
import Hexwire.Number.Integer
import Hexwire.Number.Shortest
import Hexwire.Text.Quoted
import Hexwire.Value.Printer

/-! # Values of scalars

The text of a scalar is read according to its kind. Since a tag can ask for a kind that the text
does not fit, reading can fail with a failure of the host, which the reader of the document does not
take for malformed text.
-/

namespace Hexwire.Document

/-- The failure of text that is no integer in a base; the literal of the text is cut. -/
def integerFailure (base : Nat) (text : List Char) : Integer.Fault → Failure
  | .malformed =>
    .ofText .value ("invalid literal for int() with base " ++ toString base ++ ": " ++
      String.ofList ((Text.quoteWith Text.isUnprintable text).toList.take 200))
  | .tooManyDigits count => tooManyDigits count

end Hexwire.Document

namespace Hexwire.Document.Yaml.Literal

/-- A failure of the host. -/
def failed {α : Type} (kind : HostKind) (text : String) : Except Fault α :=
  .error (.failed (.ofText kind text))

/-- The failure of a text that ends too early. -/
def tooShort {α : Type} : Except Fault α := failed .index "string index out of range"

/-- An integer of a base. -/
def integerIn (base : Nat) (text : List Char) : Except Fault Int :=
  match Integer.parse base text with
  | .ok n => .ok n
  | .error fault => .error (.failed (integerFailure base text fault))

/-- The parts of text between colons. -/
def colonParts (text : List Char) : List (List Char) :=
  text.foldr (fun c parts => match parts with
    | [] => if c = ':' then [[], []] else [[c]]
    | first :: others => if c = ':' then [] :: first :: others else (c :: first) :: others) [[]]

/-- The parts of a number of base sixty as one number, the first part being the greatest. -/
def ofSixties (parts : List Int) : Int := parts.foldl (fun total part => 60 * total + part) 0

/-- An integer without its sign. -/
def magnitude (text : List Char) : Except Fault Int :=
  match text with
  | [] => tooShort
  | ['0'] => .ok 0
  | '0' :: 'b' :: digits => integerIn 2 digits
  | '0' :: 'x' :: digits => integerIn 16 digits
  | '0' :: _ => integerIn 8 text
  | text =>
    if text.contains ':' then
      match (colonParts text).mapM (integerIn 10) with
      | .ok parts => .ok (ofSixties parts)
      | .error fault => .error fault
    else integerIn 10 text

/-- An integer; underscores do not count. -/
def integer (text : List Char) : Except Fault Int :=
  match text.filter (· ≠ '_') with
  | [] => tooShort
  | '-' :: rest => (magnitude rest).map fun n => -n
  | '+' :: rest => magnitude rest
  | rest => magnitude rest

/-- A number with a point, of a part between colons. -/
def binaryIn (text : List Char) : Except Fault Binary64 :=
  match Binary64.parse? (Text.trim Text.isAsciiBlank (text.map Integer.plainChar)) with
  | some x => .ok x
  | none => failed .value ("could not convert string to float: " ++
      Text.quoteWith Text.isUnprintable text)

/-- The sum of parts of base sixty, given with the smallest first, on top of a total; the power is
what the first part is worth, which has to be a number that can be rounded. -/
def sumSixties (power : Nat) (total : Binary64) : List Binary64 → Except Fault Binary64
  | [] => .ok total
  | part :: rest => match Binary64.ofInt power with
    | .infinite _ => failed .overflow "int too large to convert to float"
    | worth => sumSixties (60 * power) (total.add (part.mul worth)) rest

/-- A number with a point, without its sign. -/
def floatMagnitude (text : List Char) : Except Fault Binary64 :=
  if text = ".inf".toList then .ok (.infinite false)
  else if text = ".nan".toList then .ok .nan
  else if text.contains ':' then
    match (colonParts text).mapM binaryIn with
    | .ok parts => sumSixties 1 (.zero false) parts.reverse
    | .error fault => .error fault
  else binaryIn text

/-- A number with a point; underscores and the case of letters do not count. -/
def float (text : List Char) : Except Fault Binary64 :=
  match (text.filter (· ≠ '_')).map Char.toLower with
  | [] => tooShort
  | '-' :: rest => (floatMagnitude rest).map Binary64.negate
  | '+' :: rest => floatMagnitude rest
  | rest => floatMagnitude rest

/-- A truth value; the case of letters does not count. -/
def truth (text : List Char) : Except Fault Bool :=
  let word := String.ofList (text.map Char.toLower)
  if ["yes", "true", "on"].contains word then .ok true
  else if ["no", "false", "off"].contains word then .ok false
  else failed .key word

/-- The six bits that a character of base sixty-four stands for. -/
def sixBits? (c : Char) : Option Nat :=
  if c.isUpper then some (c.toNat - 65)
  else if c.isLower then some (c.toNat - 71)
  else if c.isDigit then some (c.toNat + 4)
  else if c = '+' then some 62
  else if c = '/' then some 63
  else none

/-- Octets of base sixty-four from text on, where `position` characters of a group of four have been
read, `held` are the bits left of them and `pads` the padding seen. What is no digit is passed
over. -/
def base64 (position held pads : Nat) : List Char → Option Bytes
  | [] => if position = 0 then some [] else none
  | '=' :: rest =>
    if 2 ≤ position then
      if 4 ≤ position + pads + 1 then some [] else base64 position held (pads + 1) rest
    else base64 position held pads rest
  | c :: rest =>
    match sixBits? c with
    | none => base64 position held pads rest
    | some bits =>
      if position = 0 then base64 1 bits 0 rest
      else
        let width := 2 * position
        let octet := UInt8.ofNat (held * Nat.pow 2 width + bits / Nat.pow 2 (6 - width))
        (base64 ((position + 1) % 4) (bits % Nat.pow 2 (6 - width)) 0 rest).map (octet :: ·)

/-- The day or moment of its parts. -/
def ofWritten (written : WrittenMoment) : Except Fault Value :=
  match written.time with
  | none => match Date.make written.year written.month written.day with
    | .ok date => .ok (.date date)
    | .error reason => failed .value reason
  | some time =>
    let fraction := (time.fraction.take 6 ++ List.replicate (6 - time.fraction.length) '0')
    let offset : Option Int := time.zone.map fun (sign, hours, minutes) =>
      let distance : Int := 60 * hours + minutes
      if sign = some true then -distance else distance
    let beyond : Bool := match offset with
      | some minutes => 1440 ≤ minutes.natAbs
      | none => false
    if beyond then
      failed .value ("offset must be a timedelta strictly between -timedelta(hours=24) and " ++
        "timedelta(hours=24), not " ++ Moment.distanceLiteral (offset.getD 0) ++ ".")
    else match Moment.make written.year written.month written.day time.hour time.minute
        time.second (Pattern.decimal fraction) offset with
      | .ok moment => .ok (.moment moment)
      | .error reason => failed .value reason

/-- A day or moment. -/
def timestamp (text : List Char) : Except Fault Value :=
  match Pattern.moment? (Pattern.unended text) with
  | some written => ofWritten written
  | none => failed .missingAttribute "'NoneType' object has no attribute 'groupdict'"

/-- The value of a scalar of a kind that scalars can have. -/
def value (tag : Tag) (text : List Char) : Except Fault Value :=
  match tag with
  | .null => .ok .null
  | .bool => (truth text).map Value.bool
  | .int => (integer text).map Value.int
  | .float => (float text).map Value.float
  | .binary =>
    if text.all fun c => c.toNat < 0x80 then
      match base64 0 0 0 text with
      | some data => .ok (.bytes data)
      | none => .error .malformed
    else .error .malformed
  | .timestamp => timestamp text
  | .str => .ok (.text (String.ofList text))
  | _ => .error .malformed

end Hexwire.Document.Yaml.Literal
