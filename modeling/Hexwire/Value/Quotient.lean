import Hexwire.Number.Rounded
import Hexwire.Value.Basic

/-! # Quotients and multiples

A number is divided by a whole number in binary, where the quotient is rounded once, and by a number
with a point in decimal: both are taken as they are written and the quotient is rounded to
twenty-eight digits. A number is a multiple of another when the quotient is whole.
-/

namespace Hexwire

/-- A quotient. -/
inductive Quotient where
  | binary (value : Binary64)
  | decimal (negative : Bool) (value : Binary64.Decimal)
  | infinite
  | nan

namespace Quotient

/-- The count of digits of a decimal quotient. -/
def precision : Nat := 28

/-- A failure of decimal division, with the signal that it gives. -/
def decimalFailure (kind : HostKind) (signal : String) : Failure :=
  .ofText kind ("[<class 'decimal." ++ signal ++ "'>]")

/-- The quotient of decimals, the divisor not zero: digits rounded to the precision. -/
def ofDecimals (dividend divisor : Binary64.Decimal) : Binary64.Decimal :=
  if dividend.digits = 0 then ⟨0, 0⟩
  else
    let (a, b) := dividend.ratio
    let (c, d) := divisor.ratio
    Binary64.significant precision (a * d) (b * c)

/-- A finite number as it is written. -/
def written (mantissa : Nat) (exponent : Int) : Binary64.Decimal :=
  if mantissa = 0 then ⟨0, 0⟩ else Binary64.shortest mantissa exponent

/-- The decimal quotient of a number as it is written and a number with a point. -/
def byDecimal (value : Value) (divisor : Binary64) : Except Failure Quotient :=
  let finite (negative : Bool) (dividend : Binary64.Decimal) : Except Failure Quotient :=
    match divisor with
    | .finite sign mantissa exponent =>
      if mantissa = 0 then
        if dividend.digits = 0 then
          .error (decimalFailure .decimalOperation "DivisionUndefined")
        else .error (decimalFailure .decimalZero "DivisionByZero")
      else .ok (.decimal (negative != sign) (ofDecimals dividend (written mantissa exponent)))
    | _ => .ok .nan
  match value with
  | .int n => finite (n < 0) ⟨n.natAbs, 0⟩
  | .float (.finite negative mantissa exponent) => finite negative (written mantissa exponent)
  | .float (.infinite _) => .ok .infinite
  | .float .nan => .ok .nan
  | _ => .error (decimalFailure .decimalOperation "ConversionSyntax")

/-- The quotient of integers, rounded once. -/
def ofIntegers (dividend divisor : Int) : Except Failure Quotient :=
  if divisor = 0 then .error (.ofText .zeroDivision "division by zero")
  else
    match Binary64.ofRatio ((dividend < 0) != (divisor < 0)) dividend.natAbs divisor.natAbs with
    | .infinite _ =>
      .error (.ofText .overflow "integer division result too large for a float")
    | quotient => .ok (.binary quotient)

/-- The quotient of a binary number and an integer, which is rounded first. -/
def ofBinary (dividend : Binary64) (divisor : Int) : Except Failure Quotient :=
  match Binary64.ofInt divisor with
  | .infinite _ => .error (.ofText .overflow "int too large to convert to float")
  | rounded =>
    if rounded.isZero then .error (.ofText .zeroDivision "float division by zero")
    else
      let negative := dividend.isNegative != rounded.isNegative
      match dividend, dividend.ratio?, rounded.ratio? with
      | .infinite _, _, _ => .ok (.binary (.infinite negative))
      | _, some (a, b), some (c, d) =>
        .ok (.binary (.ofRatio negative (a.natAbs * d) (b * c.natAbs)))
      | _, _, _ => .ok (.binary .nan)

/-- The quotient of a number by another. -/
def ofValues (dividend divisor : Value) : Except Failure Quotient :=
  match divisor with
  | .float divisor => byDecimal dividend divisor
  | _ =>
    let divisor := divisor.asInt?.getD 1
    match dividend with
    | .float dividend => ofBinary dividend divisor
    | _ => ofIntegers (dividend.asInt?.getD 0) divisor

/-- Whether a quotient is a whole number. -/
def isWhole : Quotient → Except Failure Bool
  | .binary .nan => .error (.ofText .value "cannot convert float NaN to integer")
  | .binary (.infinite _) =>
    .error (.ofText .overflow "cannot convert float infinity to integer")
  | .binary value => .ok value.isWhole
  | .decimal _ ⟨digits, exponent⟩ =>
    .ok (0 ≤ exponent || digits % Nat.pow 10 exponent.natAbs = 0)
  | .infinite => .error (.ofText .overflow "cannot convert Infinity to integer")
  | .nan => .error (.ofText .value "cannot convert NaN to integer")

end Quotient

end Hexwire
