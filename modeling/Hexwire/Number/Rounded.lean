import Hexwire.Number.Shortest

/-! # Decimals with a given count of digits

A number rounded to a count of decimals, or of significant digits, is the nearest decimal of that
count, a tie going to the even digit. The number is an exact ratio, so a single division decides.
Such a decimal is written positionally, with an exponent, or in the shorter of the two ways.
-/

namespace Hexwire.Binary64

/-- A ratio over a power of ten. -/
def overPower (numerator denominator : Nat) (exponent : Int) : Nat × Nat :=
  if exponent < 0 then (numerator * Nat.pow 10 exponent.natAbs, denominator)
  else (numerator, denominator * Nat.pow 10 exponent.natAbs)

/-- The decimal of `count` significant digits nearest to a positive ratio. A carry out of the
leading digit moves the exponent. -/
def significant (count numerator denominator : Nat) : Decimal :=
  let exponent := leadingPower numerator denominator - (count - 1)
  let (n, d) := overPower numerator denominator exponent
  let digits := nearest n d
  if digits = Nat.pow 10 count then ⟨Nat.pow 10 (count - 1), exponent + 1⟩ else ⟨digits, exponent⟩

/-- Digits in front of and behind a point that has `places` digits behind it. -/
def pointed (places digits : Nat) : List Char × List Char :=
  let written := Nat.toDigits 10 digits
  let padded := List.replicate (places + 1 - written.length) '0' ++ written
  padded.splitAt (padded.length - places)

/-- Digits in front of and behind a point as text; a point with nothing behind it is left out unless
it is kept. -/
def joined (keepsPoint : Bool) (whole fraction : List Char) : List Char :=
  if fraction.isEmpty && !keepsPoint then whole else whole ++ '.' :: fraction

/-- A power of ten as a mark with a sign and at least two digits. -/
def exponentMark (power : Int) : List Char :=
  let digits := Nat.toDigits 10 power.natAbs
  'e' :: (if power < 0 then '-' else '+') :: (List.replicate (2 - digits.length) '0' ++ digits)

/-- A ratio with `places` decimals. -/
def positional (keepsPoint : Bool) (places numerator denominator : Nat) : List Char :=
  let (whole, fraction) := pointed places (nearest (numerator * Nat.pow 10 places) denominator)
  joined keepsPoint whole fraction

/-- The decimal of `count` significant digits nearest to a ratio, and the power of ten of its first
digit; zero counts as having it in front of the point. -/
def leading (count numerator denominator : Nat) : Nat × Int :=
  if numerator = 0 then (0, 0)
  else
    let decimal := significant count numerator denominator
    (decimal.digits, decimal.exponent + (count - 1))

/-- A ratio with `places` decimals behind its first digit and a power of ten. -/
def scientific (keepsPoint : Bool) (places numerator denominator : Nat) : List Char :=
  let (digits, power) := leading (places + 1) numerator denominator
  let (whole, fraction) := pointed places digits
  joined keepsPoint whole fraction ++ exponentMark power

/-- A fraction without the zeros at its end. -/
def withoutZeros (fraction : List Char) : List Char :=
  (fraction.reverse.dropWhile (· = '0')).reverse

/-- A ratio with at most `count` significant digits: positionally from 10^-4 on as long as the
digits reach to the point, else with an exponent. Zeros at the end of the fraction are kept only
along with the point. -/
def general (keepsPoint : Bool) (count numerator denominator : Nat) : List Char :=
  let count := max count 1
  let (digits, power) := leading count numerator denominator
  let isPositional : Bool := -4 ≤ power && power < count
  let places := if isPositional then (count - 1 - power).toNat else count - 1
  let (whole, fraction) := pointed places digits
  let kept := if keepsPoint then fraction else withoutZeros fraction
  joined keepsPoint whole kept ++ if isPositional then [] else exponentMark power

/-- A ratio with at most `count` significant digits as `general` writes it, except that a positional
one has at least one digit behind the point. -/
def generalWithDecimal (keepsPoint : Bool) (count numerator denominator : Nat) : List Char :=
  let count := max count 1
  let (digits, power) := leading count numerator denominator
  if -4 ≤ power && power + 1 < count then
    let (whole, fraction) := pointed (count - 1 - power).toNat digits
    let kept := if keepsPoint then fraction else withoutZeros fraction
    joined true whole (if kept.isEmpty then ['0'] else kept)
  else
    let (whole, fraction) := pointed (count - 1) digits
    joined keepsPoint whole (if keepsPoint then fraction else withoutZeros fraction) ++
      exponentMark power

end Hexwire.Binary64
