import Hexwire.Document.Fault
import Hexwire.Number.Integer
import Hexwire.Number.Shortest
import Hexwire.Value.Equality

/-! # JSON documents

A document is one value with blanks around it. Besides the numbers of the format there are three
names of numbers that are not finite. Text may hold any character but control characters, and an
escape of two surrogates stands for one character. Of entries with the same key the last one counts.

A text is made of characters, of which a surrogate is none: where an escape gives a surrogate that
no other joins, the replacement character stands for it, and two texts that differ in such a
surrogate only are one text here.
-/

namespace Hexwire.Document.Json

/-- Blanks between the parts of a document. -/
def isBlank (c : Char) : Bool := c = ' ' || c = '\t' || c = '\n' || c = '\r'

/-- Text from its first character that is no blank on. -/
def skipBlanks (text : List Char) : List Char := text.dropWhile isBlank

/-- The character for a code; a lone surrogate is replaced. -/
def charOfCode (code : Nat) : Char :=
  if h : code.isValidChar then Char.ofNatAux code h else '\uFFFD'

/-- The code of four hexadecimal digits. -/
def quad? : List Char → Option (Nat × List Char)
  | a :: b :: c :: d :: rest => do
    let a ← Hex.digitValue? a
    let b ← Hex.digitValue? b
    let c ← Hex.digitValue? c
    let d ← Hex.digitValue? d
    some (4096 * a + 256 * b + 16 * c + d, rest)
  | _ => none

/-- Whether a code is the first of a pair of surrogates. -/
def isHigh (code : Nat) : Bool := 0xD800 ≤ code && code < 0xDC00

/-- Whether a code is the second of a pair of surrogates. -/
def isLow (code : Nat) : Bool := 0xDC00 ≤ code && code < 0xE000

/-- The character that two surrogates stand for. -/
def joinSurrogates (high low : Nat) : Char :=
  charOfCode (0x10000 + (high - 0xD800) * 0x400 + (low - 0xDC00))

/-- The character of an escape by code, after its letter. -/
def codeEscape? (text : List Char) : Option (Char × List Char) :=
  match quad? text with
  | none => none
  | some (high, rest) =>
    let alone := some (charOfCode high, rest)
    if isHigh high then
      match rest with
      | '\\' :: 'u' :: more => match quad? more with
        | some (low, after) => if isLow low then some (joinSurrogates high low, after) else alone
        | none => alone
      | _ => alone
    else alone

/-- The character of an escape of one letter. -/
def letterEscape? (c : Char) : Option Char :=
  if c = '"' then some '"'
  else if c = '\\' then some '\\'
  else if c = '/' then some '/'
  else if c = 'b' then some '\x08'
  else if c = 'f' then some '\x0c'
  else if c = 'n' then some '\n'
  else if c = 'r' then some '\r'
  else if c = 't' then some '\t'
  else none

/-- The characters of a text after its opening mark. The count is at least the number of characters
that are left. -/
def characters : Nat → List Char → Except Fault (List Char × List Char)
  | 0, _ => .error .malformed
  | _ + 1, [] => .error .malformed
  | _ + 1, '"' :: rest => .ok ([], rest)
  | fuel + 1, '\\' :: 'u' :: rest =>
    match codeEscape? rest with
    | none => .error .malformed
    | some (c, rest) => do
      let (tail, rest) ← characters fuel rest
      pure (c :: tail, rest)
  | fuel + 1, '\\' :: c :: rest =>
    match letterEscape? c with
    | none => .error .malformed
    | some c => do
      let (tail, rest) ← characters fuel rest
      pure (c :: tail, rest)
  | fuel + 1, c :: rest =>
    if c < ' ' then .error .malformed
    else do
      let (tail, rest) ← characters fuel rest
      pure (c :: tail, rest)

/-- The decimals of a number, with the point that stands before them. -/
def decimals (text : List Char) : List Char × List Char :=
  match text with
  | '.' :: rest =>
    let digits := rest.takeWhile Char.isDigit
    if digits.isEmpty then ([], text) else ('.' :: digits, rest.dropWhile Char.isDigit)
  | _ => ([], text)

/-- The exponent of a number, with the letter and sign that stand before it. -/
def exponent (text : List Char) : List Char × List Char :=
  match text with
  | mark :: rest =>
    if mark = 'e' || mark = 'E' then
      let (sign, body) := match rest with
        | '+' :: body => (['+'], body)
        | '-' :: body => (['-'], body)
        | body => ([], body)
      let digits := body.takeWhile Char.isDigit
      if digits.isEmpty then ([], text)
      else (mark :: sign ++ digits, body.dropWhile Char.isDigit)
    else ([], text)
  | [] => ([], text)

/-- A number, after its sign. -/
def number (negative : Bool) (text : List Char) : Except Fault (Value × List Char) :=
  let whole := match text with
    | '0' :: _ => ['0']
    | _ => text.takeWhile Char.isDigit
  if whole.isEmpty then .error .malformed
  else
    let (places, rest) := decimals (text.drop whole.length)
    let (power, rest) := exponent rest
    if places.isEmpty && power.isEmpty then
      match Integer.parse 10 whole with
      | .ok n => .ok (.int (if negative then -n else n), rest)
      | .error (.tooManyDigits count) => .error (.failed (tooManyDigits count))
      | .error .malformed => .error .malformed
    else match Binary64.ofLiteral? negative (whole ++ places ++ power) with
      | some x => .ok (.float x, rest)
      | none => .error .malformed

/-- The values that have names. -/
def names : List (List Char × Value) :=
  [("null".toList, .null), ("true".toList, .bool true), ("false".toList, .bool false),
   ("NaN".toList, .float .nan), ("Infinity".toList, .float (.infinite false)),
   ("-Infinity".toList, .float (.infinite true))]

/-- A value that is no text, list or mapping. -/
def plain (text : List Char) : Except Fault (Value × List Char) :=
  match names.find? fun (name, _) => name.isPrefixOf text with
  | some (name, value) => .ok (value, text.drop name.length)
  | none => match text with
    | '-' :: rest => number true rest
    | rest => number false rest

mutual

/-- A value at the start of text. The count bounds the depth and the number of items. -/
def value : Nat → List Char → Except Fault (Value × List Char)
  | 0, _ => .error .malformed
  | fuel + 1, text => match text with
    | '"' :: rest => do
      let (chars, rest) ← characters rest.length.succ rest
      pure (.text (String.ofList chars), rest)
    | '[' :: rest => match skipBlanks rest with
      | ']' :: rest => .ok (.list [], rest)
      | rest => do
        let (items, rest) ← items fuel rest
        pure (.list items, rest)
    | '\x7b' :: rest => match skipBlanks rest with
      | '\x7d' :: rest => .ok (.map [], rest)
      | rest => do
        let (entries, rest) ← entries fuel rest
        pure (.map (Value.entriesOf entries), rest)
    | text => plain text

/-- The items of a list up to its closing bracket. -/
def items : Nat → List Char → Except Fault (List Value × List Char)
  | 0, _ => .error .malformed
  | fuel + 1, text => do
    let (first, rest) ← value fuel text
    match skipBlanks rest with
    | ',' :: rest => do
      let (others, rest) ← items fuel (skipBlanks rest)
      pure (first :: others, rest)
    | ']' :: rest => pure ([first], rest)
    | _ => .error .malformed

/-- The entries of a mapping up to its closing brace. -/
def entries : Nat → List Char → Except Fault (List (Value × Value) × List Char)
  | 0, _ => .error .malformed
  | fuel + 1, text => match text with
    | '"' :: rest => do
      let (key, rest) ← characters rest.length.succ rest
      match skipBlanks rest with
      | ':' :: rest => do
        let (first, rest) ← value fuel (skipBlanks rest)
        let entry := (Value.text (String.ofList key), first)
        match skipBlanks rest with
        | ',' :: rest => do
          let (others, rest) ← entries fuel (skipBlanks rest)
          pure (entry :: others, rest)
        | '\x7d' :: rest => pure ([entry], rest)
        | _ => .error .malformed
      | _ => .error .malformed
    | _ => .error .malformed

end

/-- The value of a document. A byte order mark is not part of one. -/
def parse (text : List Char) : Except Fault Value := do
  let (result, rest) ← value (2 * text.length + 2) (skipBlanks text)
  if (skipBlanks rest).isEmpty then pure result else .error .malformed

end Hexwire.Document.Json
