import Hexwire.Bytes.Hex
import Hexwire.Number.Integer

/-! # Inscriptions

Texts of a definition are written into its plan between quotation marks. A quotation mark inside a
text is escaped on the way, and so is the end of a line; a backslash is not, so it escapes what
comes after it. A text whose last backslash escapes the closing mark, or that brings an escaped mark
with it, leaves the rest of its line without sense. Positions count the characters as they are
written, where a character beyond ASCII counts as its ten-character escape. An escape that gives a
surrogate gives the replacement character.
-/

namespace Hexwire.Schema.Inscription

/-- Why a text cannot be written between quotation marks. -/
inductive Fault where
  /-- No mark closes what a mark opened. -/
  | unclosed
  /-- A backslash stands outside quotation marks. -/
  | stray
  /-- An escape from one position to another makes no sense. -/
  | escape (first last : Nat) (reason : String)
  deriving DecidableEq, Repr

/-- What is said of a fault. -/
def Fault.text : Fault → Nat → String
  | unclosed, line => "unterminated string literal (detected at line " ++ toString line ++ ")"
  | stray, _ => "unexpected character after line continuation character"
  | escape first last reason, _ =>
    "(unicode error) 'unicodeescape' codec can't decode bytes in position " ++ toString first ++
      "-" ++ toString last ++ ": " ++ reason

/-- Whether a fault concerns the marks themselves, so that it is found before escapes are read. -/
def Fault.isOfMarks : Fault → Bool
  | escape _ _ _ => false
  | _ => true

/-- The fault of the marks of a text, if they do not come out even. -/
def marks? : List Char → Option Fault
  | [] => none
  | ['\\'] => some .unclosed
  | '\\' :: '"' :: rest =>
    some (if rest.any fun c => c = '\\' || c = '"' then .stray else .unclosed)
  | '\\' :: _ :: rest => marks? rest
  | _ :: rest => marks? rest

/-- How many characters a character takes when it is written. -/
def width (c : Char) : Nat :=
  if c = '"' || c = '\n' || c = '\r' then 2 else if c.toNat < 128 then 1 else 10

/-- How many characters a text takes when it is written. -/
def widthOf (text : List Char) : Nat := text.foldl (fun total c => total + width c) 0

/-- The character that a letter after a backslash stands for. -/
def control? (c : Char) : Option Char :=
  match c with
  | '\\' => some '\\'
  | '\'' => some '\''
  | 'a' => some '\x07'
  | 'b' => some '\x08'
  | 'f' => some '\x0c'
  | 'n' => some '\n'
  | 'r' => some '\r'
  | 't' => some '\t'
  | 'v' => some '\x0b'
  | _ => none

/-- How many hexadecimal digits follow a letter after a backslash, and what is said where they are
missing. -/
def digitsAfter? (c : Char) : Option (Nat × String) :=
  match c with
  | 'x' => some (2, "truncated \\xXX escape")
  | 'u' => some (4, "truncated \\uXXXX escape")
  | 'U' => some (8, "truncated \\UXXXXXXXX escape")
  | _ => none

/-- A code point as a character; one that is none gives the replacement character. -/
def charOf (code : Nat) : Char := if code.isValidChar then Char.ofNat code else '\uFFFD'

/-- The characters that a text stands for, with its escapes taken. The first number counts what is
still to be skipped, the second is the position of the next character. -/
def decode : Nat → Nat → List Char → Except Fault (List Char)
  | _, _, [] => .ok []
  | skipped + 1, position, c :: rest => decode skipped (position + width c) rest
  | 0, position, '\\' :: c :: rest =>
    if let some character := control? c then do
      pure (character :: (← decode 1 (position + 1) (c :: rest)))
    else if let some (count, reason) := digitsAfter? c then
      let digits := (rest.take count).takeWhile fun d => (Hex.digitValue? d).isSome
      let last := position + 1 + digits.length
      let code := Integer.ofDigits 16 (digits.filterMap Integer.digitValue?)
      if digits.length < count then .error (.escape position last reason)
      else if 0x10FFFF < code then
        .error (.escape position last "illegal Unicode character")
      else do pure (charOf code :: (← decode (count + 1) (position + 1) (c :: rest)))
    else if c = 'N' then
      match rest with
      | '\x7b' :: named =>
        let name := named.takeWhile (· ≠ '\x7d')
        let last := position + 2 + widthOf name
        if name.length < named.length && !name.isEmpty then
          .error (.escape position (last + 1) "unknown Unicode character name")
        else .error (.escape position last "malformed \\N character escape")
      | _ => .error (.escape position (position + 1) "malformed \\N character escape")
    else if '0' ≤ c && c ≤ '7' then
      let digits := c :: (rest.take 2).takeWhile fun d => '0' ≤ d && d ≤ '7'
      let code := Integer.ofDigits 8 (digits.filterMap Integer.digitValue?)
      do pure (charOf code :: (← decode digits.length (position + 1) (c :: rest)))
    else if c = '\n' then do
      pure ('\\' :: 'n' :: (← decode 1 (position + 1) (c :: rest)))
    else if c = '\r' then do
      pure ('\\' :: 'r' :: (← decode 1 (position + 1) (c :: rest)))
    else do
      let first := if c.toNat < 128 then 1 else 6
      pure ('\\' :: (← decode 0 (position + first) (c :: rest)))
  | 0, position, c :: rest => do
    pure (c :: (← decode 0 (position + width c) rest))

/-- The text that an inscription stands for. -/
def read (text : String) : Except Fault String :=
  match marks? text.toList with
  | some fault => .error fault
  | none => (decode 0 0 text.toList).map String.ofList

end Hexwire.Schema.Inscription
