import Hexwire.Number.Binary64

/-! # Shortest decimals of binary numbers

A binary number is shown by the fewest decimal digits that round back to it and, of those, by the
digits nearest to it. The candidates with a given count of digits are the two neighbours of the
number on the decimal grid of that count; the number is exact, so both are tested in whole-number
arithmetic. Numbers from 10^-4 up to 10^16 are written positionally with at least one decimal, the
others with an exponent of at least two digits.
-/

namespace Hexwire.Binary64

/-- Decimal digits with the power of ten of the last one. -/
structure Decimal where
  digits : Nat
  exponent : Int
  deriving DecidableEq, Repr

/-- A decimal as a ratio. -/
def Decimal.ratio (x : Decimal) : Nat × Nat :=
  if x.exponent < 0 then (x.digits, Nat.pow 10 x.exponent.natAbs)
  else (x.digits * Nat.pow 10 x.exponent.natAbs, 1)

/-- The reals that round to a positive finite number, as two ends in quarters of the last place and
whether the ends themselves round to it. -/
structure Interval where
  low : Nat
  high : Nat
  exponent : Int
  closed : Bool

/-- The interval of a mantissa and an exponent: half a place to both sides, and a quarter below
where the next lower number lies at half the distance. -/
def interval (mantissa : Nat) (exponent : Int) : Interval where
  low :=
    if mantissa = Nat.pow 2 52 ∧ leastExponent < exponent then 4 * mantissa - 1
    else 4 * mantissa - 2
  high := 4 * mantissa + 2
  exponent := exponent - 2
  closed := mantissa % 2 = 0

/-- Whether a decimal lies in an interval. -/
def Interval.contains (i : Interval) (x : Decimal) : Bool :=
  let (n, d) := x.ratio
  let (lowN, lowD) := scale i.low 1 i.exponent
  let (highN, highD) := scale i.high 1 i.exponent
  if i.closed then lowN * d ≤ n * lowD && n * highD ≤ highN * d
  else lowN * d < n * lowD && n * highD < highN * d

/-- The power of ten of the leading digit of a positive ratio: the greatest that is at most it. -/
def leadingPower (numerator denominator : Nat) : Int :=
  let estimate : Int :=
    (Nat.toDigits 10 numerator).length - (Nat.toDigits 10 denominator).length
  let (n, d) := if estimate < 0 then (numerator * Nat.pow 10 estimate.natAbs, denominator)
    else (numerator, denominator * Nat.pow 10 estimate.natAbs)
  if d ≤ n then estimate else estimate - 1

/-- The better of the two neighbours of a ratio on a decimal grid, of those that lie in the
interval: the nearer one, and of two equally near ones the one with the even last digit. -/
def neighbour? (numerator denominator : Nat) (exponent : Int) (i : Interval) : Option Decimal :=
  let (n, d) := if exponent < 0 then (numerator * Nat.pow 10 exponent.natAbs, denominator)
    else (numerator, denominator * Nat.pow 10 exponent.natAbs)
  let below : Decimal := ⟨n / d, exponent⟩
  let above : Decimal := ⟨n / d + 1, exponent⟩
  let twice := 2 * (n % d)
  let preferAbove := twice > d || (twice = d && below.digits % 2 = 1)
  let (first, second) := if preferAbove then (above, below) else (below, above)
  if i.contains first then some first else if i.contains second then some second else none

/-- The first grid, from `count` digits on, that holds a decimal of the interval. -/
def searchGrids (numerator denominator : Nat) (power : Int) (i : Interval) (fallback : Decimal) :
    Nat → Nat → Decimal
  | _, 0 => fallback
  | count, fuel + 1 =>
    match neighbour? numerator denominator (power - count + 1) i with
    | some decimal => decimal
    | none => searchGrids numerator denominator power i fallback (count + 1) fuel

/-- A decimal without zeros at its end. -/
def Decimal.trimmed (x : Decimal) : Nat → Decimal
  | 0 => x
  | fuel + 1 =>
    if x.digits ≠ 0 ∧ x.digits % 10 = 0 then
      Decimal.trimmed ⟨x.digits / 10, x.exponent + 1⟩ fuel
    else x

/-- The shortest decimal that rounds to a positive finite number. Seventeen digits always do. -/
def shortest (mantissa : Nat) (exponent : Int) : Decimal :=
  let (n, d) := scale mantissa 1 exponent
  let power := leadingPower n d
  let found := searchGrids n d power (interval mantissa exponent) ⟨n / d, 0⟩ 1 17
  found.trimmed 20

/-- Digits with an exponent as text: positional when the leading digit stands between 10^-4 and
10^15, else in scientific form. -/
def Decimal.render (x : Decimal) : String :=
  let digits := Nat.toDigits 10 x.digits
  let lead : Int := x.exponent + digits.length - 1
  if -4 ≤ lead ∧ lead < 16 then
    if 0 ≤ x.exponent then
      String.ofList (digits ++ List.replicate x.exponent.natAbs '0') ++ ".0"
    else if lead < 0 then
      "0." ++ String.ofList (List.replicate (lead.natAbs - 1) '0' ++ digits)
    else
      String.ofList (digits.take (lead.natAbs + 1)) ++ "." ++
        String.ofList (digits.drop (lead.natAbs + 1))
  else
    let fraction := if digits.length ≤ 1 then "" else "." ++ String.ofList (digits.drop 1)
    let power := (Nat.toDigits 10 lead.natAbs)
    String.ofList (digits.take 1) ++ fraction ++ "e" ++ (if lead < 0 then "-" else "+") ++
      String.ofList (List.replicate (2 - power.length) '0' ++ power)

/-- A number as text. -/
def render : Binary64 → String
  | .nan => "nan"
  | .infinite negative => if negative then "-inf" else "inf"
  | .finite negative mantissa exponent =>
    (if negative then "-" else "") ++
      (if mantissa = 0 then "0.0" else (shortest mantissa exponent).render)

/-- The digits of a decimal literal without sign and exponent: the digits read as a whole number and
the count of those after the point. At least one digit is needed. -/
def decimalDigits? (text : List Char) : Option (Nat × Nat) :=
  let whole := text.takeWhile Char.isDigit
  let rest := text.dropWhile Char.isDigit
  let fraction? : Option (List Char) := match rest with
    | [] => some []
    | '.' :: fraction => if fraction.all Char.isDigit then some fraction else none
    | _ => none
  match fraction? with
  | none => none
  | some fraction =>
    let digits := whole ++ fraction
    if digits.isEmpty then none
    else some (digits.foldl (fun total c => 10 * total + (c.toNat - 48)) 0, fraction.length)

/-- A decimal exponent: an optional sign and at least one digit. -/
def decimalExponent? (text : List Char) : Option Int :=
  let value (digits : List Char) : Option Nat :=
    if digits.isEmpty || !digits.all Char.isDigit then none
    else some (digits.foldl (fun total c => 10 * total + (c.toNat - 48)) 0)
  match text with
  | '-' :: digits => (value digits).map fun n => -(n : Int)
  | '+' :: digits => (value digits).map fun n => (n : Int)
  | digits => (value digits).map fun n => (n : Int)

/-- The number nearest to an unsigned decimal literal: digits with an optional point and an optional
exponent. -/
def ofLiteral? (negative : Bool) (text : List Char) : Option Binary64 :=
  let isMark (c : Char) : Bool := c = 'e' || c = 'E'
  let mantissa := text.takeWhile fun c => !isMark c
  match decimalDigits? mantissa, text.dropWhile (fun c => !isMark c) with
  | none, _ => none
  | some (digits, places), [] => some (ofDecimal negative digits (-(places : Int)))
  | some (digits, places), _ :: exponent =>
    (decimalExponent? exponent).map fun e => ofDecimal negative digits (e - places)

/-- The number that text denotes: a decimal literal, an infinity or not a number, with an optional
sign. -/
def parse? (text : List Char) : Option Binary64 :=
  let unsigned (negative : Bool) (body : List Char) : Option Binary64 :=
    let name := String.ofList (body.map Char.toLower)
    if name = "inf" || name = "infinity" then some (.infinite negative)
    else if name = "nan" then some .nan
    else ofLiteral? negative body
  match text with
  | '-' :: body => unsigned true body
  | '+' :: body => unsigned false body
  | body => unsigned false body

end Hexwire.Binary64
