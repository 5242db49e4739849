import Hexwire.Number.Rounded
import Hexwire.Value.Access
import Hexwire.Value.Spelling

/-! # Directives

A directive says how a value is laid out: as text, as a character, as an integer in a base or as a
number with a point. Text is cut to the precision. An integer has at least as many digits as the
precision says, and a number with a point that many decimals, or significant digits. Numbers show a
sign where it is asked for. The width is filled with blanks at the left, or at the right if the
directive says so; in front of a number, zeros after the sign can take their place.
-/

namespace Hexwire.Log

/-- How a value is laid out. -/
structure Directive where
  left : Bool := false
  signed : Bool := false
  blank : Bool := false
  alternate : Bool := false
  zero : Bool := false
  width : Nat := 0
  precision : Option Nat := none
  deriving Repr

namespace Directive

/-- Text in the width of a directive. -/
def placed (d : Directive) (text : List Char) : List Char :=
  let spaces := List.replicate (d.width - text.length) ' '
  if d.left then text ++ spaces else spaces ++ text

/-- Text cut to the precision of a directive and put in its width. -/
def text (d : Directive) (text : List Char) : List Char :=
  d.placed (match d.precision with
    | some most => text.take most
    | none => text)

/-- The sign that stands in front of a number. -/
def sign (d : Directive) (negative : Bool) : List Char :=
  if negative then ['-'] else if d.signed then ['+'] else if d.blank then [' '] else []

/-- A number of a sign, a mark and digits in the width of a directive. Zeros stand between the mark
and the digits, unless the width is filled at the right. -/
def number (d : Directive) (negative : Bool) (mark digits : List Char) : List Char :=
  let head := d.sign negative ++ mark
  let zeros := if d.zero && !d.left then d.width - (head.length + digits.length) else 0
  d.placed (head ++ List.replicate zeros '0' ++ digits)

/-- The base of the digits that a letter asks for. -/
def base (letter : Char) : Nat :=
  if letter = 'x' || letter = 'X' then 16 else if letter = 'o' then 8 else 10

/-- The mark that stands in front of the digits of a base in the alternate form. -/
def baseMark (letter : Char) : List Char :=
  if base letter = 10 then [] else ['0', letter]

/-- An integer as a directive lays it out. -/
def integer (d : Directive) (letter : Char) (n : Int) : List Char :=
  let digits := Nat.toDigits (base letter) n.natAbs
  let digits := if letter = 'X' then digits.map Char.toUpper else digits
  let digits := List.replicate (d.precision.getD 0 - digits.length) '0' ++ digits
  d.number (n < 0) (if d.alternate then baseMark letter else []) digits

/-- The count of decimals or significant digits where a directive gives none. -/
def usualPrecision : Nat := 6

/-- The digits of a finite number under a letter, from its exact ratio. -/
def digits (d : Directive) (letter : Char) (numerator denominator : Nat) : List Char :=
  let precision := d.precision.getD usualPrecision
  if letter = 'f' then Binary64.positional d.alternate precision numerator denominator
  else if letter = 'e' then Binary64.scientific d.alternate precision numerator denominator
  else Binary64.general d.alternate precision numerator denominator

/-- A number with a point as a directive lays it out; under a capital letter all its letters are
capital. -/
def real (d : Directive) (letter : Char) (x : Binary64) : List Char :=
  let written := match x.ratio? with
    | some (n, denominator) => d.digits letter.toLower n.natAbs denominator
    | none => if x = .nan then ['n', 'a', 'n'] else ['i', 'n', 'f']
  d.number x.isNegative [] (if letter.isUpper then written.map Char.toUpper else written)

/-- The greatest precision of an integer. -/
def greatestPrecision : Nat := Nat.pow 2 31 - 4

/-- A number without its fraction, for the decimal directive of the given letter. -/
def wholeNumber (letter : Char) : Value → Except Failure Int
  | .float .nan => .error (.ofText .value "cannot convert float NaN to integer")
  | .float (.infinite _) => .error (.ofText .overflow "cannot convert float infinity to integer")
  | .float x => match x.ratio? with
    | some (n, d) => .ok (Int.tdiv n d)
    | none => .ok 0
  | value => match value.asInt? with
    | some n => .ok n
    | none => .error (Value.wrongKind ("%" ++ letter.toString ++
        " format: a real number is required, not " ++ value.typeName))

/-- The integer that a directive with the given letter is to lay out. -/
def integerOf (letter : Char) (argument : Value) : Except Failure Int :=
  if base letter = 10 then wholeNumber letter argument
  else match argument.asInt? with
    | some n => .ok n
    | none => .error (Value.wrongKind ("%" ++ letter.toString ++
        " format: an integer is required, not " ++ argument.typeName))

/-- The argument of a character directive as a character. -/
def character : Value → Except Failure Char
  | .text s => match s.toList with
    | [c] => .ok c
    | _ => .error (Value.wrongKind "%c requires int or char")
  | value => match value.asInt? with
    | some n =>
      if 0 ≤ n ∧ n < 0x110000 then .ok (Char.ofNat n.toNat)
      else .error (.ofText .overflow "%c arg not in range(0x110000)")
    | none => .error (Value.wrongKind "%c requires int or char")

/-- An integer as a directive with the given letter writes it. -/
def writeInteger (d : Directive) (letter : Char) (argument : Value) :
    Except Failure (List Char) := do
  let n ← integerOf letter argument
  if greatestPrecision < d.precision.getD 0 then throw (.ofText .overflow "precision too large")
  else if base letter = 10 && Value.isTooLong n then throw Value.tooLong
  else pure (d.integer letter n)

/-- A value as a directive with the given letter writes it; nothing for an unknown letter. -/
def write (d : Directive) (letter : Char) (argument : Value) :
    Option (Except Failure (List Char)) :=
  match letter with
  | 's' => some ((argument.spelled Value.plain).map d.text)
  | 'r' => some ((argument.spelled Value.literal).map d.text)
  | 'a' => some ((argument.spelled Value.asciiLiteral).map d.text)
  | 'c' => some ((character argument).map fun c => d.placed [c])
  | 'd' | 'i' | 'u' | 'o' | 'x' | 'X' => some (d.writeInteger letter argument)
  | 'e' | 'E' | 'f' | 'F' | 'g' | 'G' => some (argument.toReal.map (d.real letter))
  | _ => none

end Directive

end Hexwire.Log
