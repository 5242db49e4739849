import Hexwire.Text.Numeral
import Hexwire.Bytes.Hex

/-! # Integer literals

An integer is written as an optional sign and digits of a base between two and thirty-six, with
single underscores between digits allowed. In bases two, eight and sixteen the digits may follow the
marker of their base; a literal read without a base takes the base from its marker, and without a
marker is decimal and must not start with a zero unless it denotes zero. White space may surround
the literal. In a base that is no power of two at most 4300 digits are read.
-/

namespace Hexwire.Integer

/-- Why text is not an integer literal that can be read. -/
inductive Fault where
  | malformed
  | tooManyDigits (count : Nat)
  deriving DecidableEq, Repr

/-- The most digits that are read in a base that is no power of two. -/
def digitLimit : Nat := 4300

/-- The value of a digit or letter as a digit in bases up to thirty-six. -/
def digitValue? (c : Char) : Option Nat :=
  if '0' ≤ c ∧ c ≤ '9' then some (c.toNat - 48)
  else if 'A' ≤ c ∧ c ≤ 'Z' then some (c.toNat - 55)
  else if 'a' ≤ c ∧ c ≤ 'z' then some (c.toNat - 87)
  else none

/-- The base that a marker letter stands for. -/
def markedBase? (c : Char) : Option Nat :=
  if c = 'x' || c = 'X' then some 16
  else if c = 'o' || c = 'O' then some 8
  else if c = 'b' || c = 'B' then some 2
  else none

/-- The digit values of characters in a base, where a single underscore may stand between two
digits; `joined` tells that the previous character was an underscore. -/
def digits? (base : Nat) (joined : Bool) : List Char → Option (List Nat)
  | [] => if joined then none else some []
  | '_' :: rest => if joined then none else digits? base true rest
  | c :: rest => do
    let value ← digitValue? c
    if value < base then (value :: ·) <$> digits? base false rest else none

/-- The number that digit values denote, most significant first. -/
def ofDigits (base : Nat) (values : List Nat) : Nat :=
  values.foldl (fun total value => base * total + value) 0

/-- The magnitude written by characters without sign and white space. A base of zero leaves the
choice of the base to the literal. -/
def magnitude (base : Nat) (text : List Char) : Except Fault Nat :=
  let marked : Option Nat := match text with
    | '0' :: c :: _ => (markedBase? c).filter fun b => base = 0 || base = b
    | _ => none
  let body := match marked with
    | none => text
    | some _ => match text.drop 2 with
      | '_' :: rest => rest
      | rest => rest
  let actual := match marked with
    | some b => b
    | none => if base = 0 then 10 else base
  match body with
  | [] => .error .malformed
  | '_' :: _ => .error .malformed
  | _ =>
    match digits? actual false body with
    | none => .error .malformed
    | some values =>
      if values.length > digitLimit && !([2, 4, 8, 16, 32].contains actual) then
        .error (.tooManyDigits values.length)
      else
        let value := ofDigits actual values
        if base = 0 && marked.isNone && body.head? = some '0' && value ≠ 0 then .error .malformed
        else .ok value

/-- A character as it counts in a literal: blanks of any script are spaces and decimal digits of any
script are ASCII digits. -/
def plainChar (c : Char) : Char :=
  if c.toNat < 127 then c
  else if Text.isWideBlank c then ' '
  else match Text.decimalDigit? c with
    | some value => Char.ofNat (48 + value)
    | none => '?'

/-- The integer that a literal denotes, in the given base or, for base zero, in the base that the
literal chooses. -/
def parse (base : Nat) (text : List Char) : Except Fault Int :=
  match Text.trim Text.isAsciiBlank (text.map plainChar) with
  | '-' :: rest => (magnitude base rest).map fun value => -(value : Int)
  | '+' :: rest => (magnitude base rest).map fun value => (value : Int)
  | rest => (magnitude base rest).map fun value => (value : Int)

end Hexwire.Integer
