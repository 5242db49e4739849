/-! # Binary floating-point numbers

A finite number is a sign and an exact product of a whole mantissa below 2^53 and a power of two not
below 2^-1074. Every such number has one representation here: the mantissa is at least 2^52 unless
the exponent is the least one. Rounding takes an exact ratio to the nearest representable number, a
tie to the even mantissa, so sums, products and decimal literals are computed exactly and rounded
once.
-/

namespace Hexwire

/-- A number of the 64-bit binary format. -/
inductive Binary64 where
  | finite (negative : Bool) (mantissa : Nat) (exponent : Int)
  | infinite (negative : Bool)
  | nan
  deriving DecidableEq, Repr, Inhabited

namespace Binary64

/-- The least exponent of a finite number. -/
def leastExponent : Int := -1074

/-- The greatest exponent of a finite number. -/
def greatestExponent : Int := 971

/-- Zero with a sign. -/
def zero (negative : Bool) : Binary64 := .finite negative 0 leastExponent

/-- A ratio times a power of two, as a ratio. -/
def scale (numerator denominator : Nat) (exponent : Int) : Nat × Nat :=
  if exponent < 0 then (numerator, denominator * Nat.pow 2 exponent.natAbs)
  else (numerator * Nat.pow 2 exponent.natAbs, denominator)

/-- The whole number nearest to a ratio, a tie going to the even one. -/
def nearest (numerator denominator : Nat) : Nat :=
  let quotient := numerator / denominator
  let twice := 2 * (numerator % denominator)
  if twice > denominator || (twice = denominator && quotient % 2 = 1) then quotient + 1
  else quotient

/-- The number nearest to a ratio of positive numbers, with a sign. -/
def ofRatio (negative : Bool) (numerator denominator : Nat) : Binary64 :=
  if numerator = 0 then zero negative
  else
    let estimate : Int := (numerator.log2 : Int) - (denominator.log2 : Int)
    let (n, d) := scale numerator denominator (-estimate)
    let exponent := max (if d ≤ n then estimate - 52 else estimate - 53) leastExponent
    let (n, d) := scale numerator denominator (-exponent)
    let rounded := nearest n d
    let (mantissa, exponent) :=
      if rounded = Nat.pow 2 53 then (Nat.pow 2 52, exponent + 1) else (rounded, exponent)
    if mantissa = 0 then zero negative
    else if exponent > greatestExponent then .infinite negative
    else .finite negative mantissa exponent

/-- The number nearest to a decimal: digits read as a whole number, times a power of ten. Exponents
beyond the range of the format are settled without computing the power. -/
def ofDecimal (negative : Bool) (digits : Nat) (exponent : Int) : Binary64 :=
  let size : Int := exponent + (Nat.toDigits 10 digits).length
  if digits = 0 then zero negative
  else if size > 400 then .infinite negative
  else if size < -400 then zero negative
  else if exponent < 0 then ofRatio negative digits (Nat.pow 10 exponent.natAbs)
  else ofRatio negative (digits * Nat.pow 10 exponent.natAbs) 1

/-- The number nearest to an integer. -/
def ofInt (value : Int) : Binary64 := ofRatio (value < 0) value.natAbs 1

/-- The exact value of a finite number as a signed numerator over a positive denominator. -/
def ratio? : Binary64 → Option (Int × Nat)
  | .finite negative mantissa exponent =>
    let (n, d) := scale mantissa 1 exponent
    some (if negative then -(n : Int) else n, d)
  | _ => none

/-- Whether a number is negative, zero with a sign included. -/
def isNegative : Binary64 → Bool
  | .finite negative _ _ => negative
  | .infinite negative => negative
  | .nan => false

/-- The number of the opposite sign. -/
def negate : Binary64 → Binary64
  | .finite negative mantissa exponent => .finite (!negative) mantissa exponent
  | .infinite negative => .infinite (!negative)
  | .nan => .nan

/-- Whether a number is zero of either sign. -/
def isZero : Binary64 → Bool
  | .finite _ mantissa _ => mantissa = 0
  | _ => false

/-- Whether a number is finite and has no fractional part. -/
def isWhole (x : Binary64) : Bool :=
  match x.ratio? with
  | some (n, d) => n % d = 0
  | none => false

/-- The product, rounded once. -/
def mul (x y : Binary64) : Binary64 :=
  let negative := x.isNegative != y.isNegative
  match x, y with
  | .nan, _ => .nan
  | _, .nan => .nan
  | .infinite _, y => if y.isZero then .nan else .infinite negative
  | x, .infinite _ => if x.isZero then .nan else .infinite negative
  | x, y => match x.ratio?, y.ratio? with
    | some (a, b), some (c, d) => ofRatio negative (a * c).natAbs (b * d)
    | _, _ => .nan

/-- The sum, rounded once; an exact sum of zero is positive unless both terms are negative. -/
def add (x y : Binary64) : Binary64 :=
  match x, y with
  | .nan, _ => .nan
  | _, .nan => .nan
  | .infinite a, .infinite b => if a = b then .infinite a else .nan
  | .infinite a, _ => .infinite a
  | _, .infinite b => .infinite b
  | x, y => match x.ratio?, y.ratio? with
    | some (a, b), some (c, d) =>
      let sum := a * d + c * b
      if sum = 0 then zero (x.isNegative && y.isNegative)
      else ofRatio (sum < 0) sum.natAbs (b * d)
    | _, _ => .nan

/-- How a number compares with an exact ratio; not a number compares with nothing. -/
def compareRatio? (x : Binary64) (numerator : Int) (denominator : Nat) : Option Ordering :=
  match x with
  | .nan => none
  | .infinite negative => some (if negative then .lt else .gt)
  | x => x.ratio?.map fun (n, d) => compare (n * denominator) (numerator * d)

/-- How two numbers compare. -/
def compare? (x y : Binary64) : Option Ordering :=
  match y with
  | .nan => none
  | .infinite negative =>
    match x with
    | .nan => none
    | .infinite other => some (if negative = other then .eq else if negative then .gt else .lt)
    | _ => some (if negative then .gt else .lt)
  | y => match y.ratio? with
    | some (n, d) => x.compareRatio? n d
    | none => none

end Binary64

end Hexwire
