import Hexwire.Value.Quotient
import Mathlib.Algebra.Order.Ring.Nat
import Mathlib.Tactic.Ring

/-! # Multiples

A number passes as a multiple of another when their quotient is whole. The quotient of integers is
rounded to the nearest number of the format, so an integer that is too large could pass by mistake.
A multiple always passes, unless the quotient is too large for the format
(`Hexwire.Quotient.isWhole_of_dvd`), and integers of up to fifty-three bits pass only if they are
multiples (`Hexwire.Quotient.isWhole_ofIntegers`).
-/

namespace Hexwire

namespace Binary64

/-! ## Rounding -/

/-- A ratio is scaled by a power of two on the side where the exponent is positive. -/
theorem scale_eq (numerator denominator : Nat) (exponent : Int) :
    scale numerator denominator exponent =
      (numerator * 2 ^ exponent.toNat, denominator * 2 ^ (-exponent).toNat) := by
  unfold scale
  split
  · next below =>
    have power : exponent.natAbs = (-exponent).toNat := by omega
    rw [Int.toNat_of_nonpos (Int.le_of_lt below), Nat.pow_zero, Nat.mul_one, power]
    rfl
  · next above =>
    have power : exponent.natAbs = exponent.toNat := by omega
    rw [Int.toNat_of_nonpos (show -exponent ≤ 0 by omega), Nat.pow_zero, Nat.mul_one, power]
    rfl

/-- A whole quotient is the nearest number. -/
theorem nearest_mul {divisor : Nat} (positive : 0 < divisor) (quotient : Nat) :
    nearest (quotient * divisor) divisor = quotient := by
  have whole : quotient * divisor / divisor = quotient := Nat.mul_div_cancel _ positive
  have rest : quotient * divisor % divisor = 0 := Nat.mul_mod_left _ _
  simp only [nearest, whole, rest, Nat.mul_zero]
  rw [if_neg]
  simp only [Bool.or_eq_true, decide_eq_true_eq, Bool.and_eq_true]
  omega

/-- The number nearest to a ratio is off by half at most. -/
theorem nearest_near {divisor : Nat} (positive : 0 < divisor) (dividend : Nat) :
    2 * (divisor * nearest dividend divisor) ≤ 2 * dividend + divisor ∧
      2 * dividend ≤ 2 * (divisor * nearest dividend divisor) + divisor := by
  have parts := Nat.div_add_mod dividend divisor
  have small := Nat.mod_lt dividend positive
  simp only [nearest]
  split
  · next up =>
    simp only [Bool.or_eq_true, decide_eq_true_eq, Bool.and_eq_true] at up
    rw [Nat.mul_add, Nat.mul_one]
    omega
  · next down =>
    simp only [Bool.or_eq_true, decide_eq_true_eq, Bool.and_eq_true, not_or] at down
    omega

/-- The exponent of the number that a ratio is rounded to. -/
def exponentFor (numerator denominator : Nat) : Int :=
  let estimate : Int := (numerator.log2 : Int) - (denominator.log2 : Int)
  let (n, d) := scale numerator denominator (-estimate)
  max (if d ≤ n then estimate - 52 else estimate - 53) leastExponent

/-- A rounded mantissa and its exponent as a number. -/
def settled (negative : Bool) (rounded : Nat) (exponent : Int) : Binary64 :=
  let (mantissa, exponent) :=
    if rounded = 2 ^ 53 then (2 ^ 52, exponent + 1) else (rounded, exponent)
  if mantissa = 0 then zero negative
  else if exponent > greatestExponent then .infinite negative
  else .finite negative mantissa exponent

/-- A ratio is rounded to a mantissa for its exponent. -/
theorem ofRatio_eq {numerator : Nat} (nonzero : numerator ≠ 0) (denominator : Nat)
    (negative : Bool) :
    let exponent := exponentFor numerator denominator
    ofRatio negative numerator denominator =
      settled negative (nearest (numerator * 2 ^ (-exponent).toNat)
        (denominator * 2 ^ exponent.toNat)) exponent := by
  intro exponent
  have scaled := scale_eq numerator denominator (-exponent)
  rw [Int.neg_neg] at scaled
  rw [ofRatio, if_neg nonzero]
  change settled negative (nearest (scale numerator denominator (-exponent)).1
    (scale numerator denominator (-exponent)).2) exponent = _
  rw [scaled]

/-- The exponent is small enough for the mantissa to take up its fifty-three bits. -/
theorem le_of_exponentFor {numerator denominator : Nat} (nonzero : numerator ≠ 0)
    (above : leastExponent < exponentFor numerator denominator) :
    let exponent := exponentFor numerator denominator
    2 ^ 52 * (denominator * 2 ^ exponent.toNat) ≤ numerator * 2 ^ (-exponent).toNat := by
  intro exponent
  let estimate : Int := (numerator.log2 : Int) - (denominator.log2 : Int)
  have scaled := scale_eq numerator denominator (-estimate)
  rw [Int.neg_neg] at scaled
  have chosen : exponent = max (if denominator * 2 ^ estimate.toNat ≤
      numerator * 2 ^ (-estimate).toNat then estimate - 52 else estimate - 53) leastExponent := by
    change max (if (scale numerator denominator (-estimate)).2 ≤
      (scale numerator denominator (-estimate)).1 then _ else _) leastExponent = _
    rw [scaled]
  have least : leastExponent < exponent := above
  split at chosen
  · next fits =>
    have same : 52 + exponent.toNat + (-estimate).toNat = estimate.toNat + (-exponent).toNat := by
      omega
    refine Nat.le_of_mul_le_mul_right (?_ : _ * 2 ^ (-estimate).toNat ≤ _) (Nat.two_pow_pos _)
    calc 2 ^ 52 * (denominator * 2 ^ exponent.toNat) * 2 ^ (-estimate).toNat
        = denominator * 2 ^ (52 + exponent.toNat + (-estimate).toNat) := by ring
      _ = denominator * 2 ^ estimate.toNat * 2 ^ (-exponent).toNat := by
          rw [same, pow_add, Nat.mul_assoc]
      _ ≤ numerator * 2 ^ (-estimate).toNat * 2 ^ (-exponent).toNat := Nat.mul_le_mul_right _ fits
      _ = numerator * 2 ^ (-exponent).toNat * 2 ^ (-estimate).toNat := Nat.mul_right_comm _ _ _
  · have same : 53 + denominator.log2 + exponent.toNat =
        numerator.log2 + (-exponent).toNat := by omega
    have upper : denominator ≤ 2 ^ (denominator.log2 + 1) := Nat.le_of_lt Nat.lt_log2_self
    calc 2 ^ 52 * (denominator * 2 ^ exponent.toNat)
        ≤ 2 ^ 52 * (2 ^ (denominator.log2 + 1) * 2 ^ exponent.toNat) :=
          Nat.mul_le_mul_left _ (Nat.mul_le_mul_right _ upper)
      _ = 2 ^ (53 + denominator.log2 + exponent.toNat) := by ring
      _ = 2 ^ numerator.log2 * 2 ^ (-exponent).toNat := by rw [same, pow_add]
      _ ≤ numerator * 2 ^ (-exponent).toNat :=
          Nat.mul_le_mul_right _ (Nat.log2_self_le nonzero)

/-- A number is whole if its power of two divides its mantissa. -/
theorem isWhole_finite (negative : Bool) (mantissa : Nat) (exponent : Int) :
    isWhole (.finite negative mantissa exponent) =
      decide (2 ^ (-exponent).toNat ∣ mantissa * 2 ^ exponent.toNat) := by
  have scaled := scale_eq mantissa 1 exponent
  rw [Nat.one_mul] at scaled
  rw [isWhole, ratio?, scaled]
  dsimp only
  have divides :
      ((if negative then -((mantissa * 2 ^ exponent.toNat : Nat) : Int)
        else ((mantissa * 2 ^ exponent.toNat : Nat) : Int)) %
          ((2 ^ (-exponent).toNat : Nat) : Int) = 0) ↔
      2 ^ (-exponent).toNat ∣ mantissa * 2 ^ exponent.toNat := by
    rw [← Int.dvd_iff_emod_eq_zero, ← Int.natCast_dvd_natCast]
    cases negative
    · rfl
    · exact Int.dvd_neg
  exact decide_eq_decide.mpr divides

/-- Unless it is too large, a settled number is whole if its power of two divides the rounded
mantissa. -/
theorem isWhole_settled (negative : Bool) (rounded : Nat) (exponent : Int) :
    settled negative rounded exponent = .infinite negative ∨
      isWhole (settled negative rounded exponent) =
        decide (2 ^ (-exponent).toNat ∣ rounded * 2 ^ exponent.toNat) := by
  by_cases full : rounded = 2 ^ 53
  · have powers (count other : Nat) : 2 ^ count ∣ 2 ^ other ↔ count ≤ other :=
      Nat.pow_dvd_pow_iff_le_right (Nat.le_refl 2)
    have same : 2 ^ (-(exponent + 1)).toNat ∣ 2 ^ 52 * 2 ^ (exponent + 1).toNat ↔
        2 ^ (-exponent).toNat ∣ rounded * 2 ^ exponent.toNat := by
      rw [full, ← pow_add, ← pow_add, powers, powers]
      omega
    have carried : settled negative rounded exponent =
        if exponent + 1 > greatestExponent then .infinite negative
        else .finite negative (2 ^ 52) (exponent + 1) := by
      rw [settled, if_pos full]
      rfl
    rw [carried]
    split
    · exact .inl rfl
    · exact .inr ((isWhole_finite _ _ _).trans (decide_eq_decide.mpr same))
  · have kept : settled negative rounded exponent =
        if rounded = 0 then zero negative
        else if exponent > greatestExponent then .infinite negative
        else .finite negative rounded exponent := by
      rw [settled, if_neg full]
    rw [kept]
    split
    · next nothing =>
      refine .inr ((isWhole_finite _ _ _).trans (decide_eq_decide.mpr ?_))
      rw [nothing, Nat.zero_mul, Nat.zero_mul]
      exact iff_of_true (Nat.dvd_zero _) (Nat.dvd_zero _)
    · split
      · exact .inl rfl
      · exact .inr (isWhole_finite _ _ _)

/-- A settled number is too large only above the greatest exponent. -/
theorem settled_ne_infinite {exponent : Int} (below : exponent < greatestExponent)
    (negative : Bool) (rounded : Nat) :
    settled negative rounded exponent ≠ .infinite negative := by
  unfold settled
  split
  next mantissa power carried =>
  have high : ¬ power > greatestExponent := by
    split at carried
    · cases carried
      omega
    · cases carried
      omega
  rw [if_neg high]
  split
  · exact nofun
  · exact nofun

/-- A ratio is rounded to a number with its sign. -/
theorem ofRatio_cases (negative : Bool) (numerator denominator : Nat) :
    ofRatio negative numerator denominator = .infinite negative ∨
      ∃ mantissa exponent,
        ofRatio negative numerator denominator = .finite negative mantissa exponent := by
  by_cases nothing : numerator = 0
  · exact .inr ⟨0, leastExponent, by rw [ofRatio, if_pos nothing, zero]⟩
  · rw [ofRatio_eq nothing, settled]
    split
    split
    · exact .inr ⟨0, leastExponent, rfl⟩
    · split
      · exact .inl rfl
      · exact .inr ⟨_, _, rfl⟩

variable {numerator denominator : Nat}

/-- A ratio that is whole is rounded to a whole number, unless that is too large. -/
theorem isWhole_ofRatio_of_dvd (positive : 0 < denominator) (divides : denominator ∣ numerator)
    (negative : Bool) :
    ofRatio negative numerator denominator = .infinite negative ∨
      isWhole (ofRatio negative numerator denominator) := by
  by_cases nothing : numerator = 0
  · rw [ofRatio, if_pos nothing, zero, isWhole_finite, Nat.zero_mul]
    exact .inr (decide_eq_true (Nat.dvd_zero _))
  · rw [ofRatio_eq nothing]
    refine (isWhole_settled _ _ _).imp_right fun whole => whole.trans (decide_eq_true ?_)
    obtain ⟨quotient, rfl⟩ := divides
    generalize exponentFor (denominator * quotient) denominator = exponent
    rcases Int.le_total 0 exponent with high | low
    · rw [Int.toNat_of_nonpos (show -exponent ≤ 0 by omega), Nat.pow_zero]
      exact Nat.one_dvd _
    · have product : denominator * quotient * 2 ^ (-exponent).toNat =
          quotient * 2 ^ (-exponent).toNat * denominator := by ring
      rw [Int.toNat_of_nonpos low, Nat.pow_zero, Nat.mul_one, Nat.mul_one, product,
        nearest_mul positive]
      exact Nat.dvd_mul_left _ _

/-- Where the denominator is small, the mantissa takes up its fifty-three bits at any exponent. -/
theorem le_of_exponentFor_of_narrow (nonzero : numerator ≠ 0) (narrow : denominator < 2 ^ 53) :
    let exponent := exponentFor numerator denominator
    2 ^ 52 * (denominator * 2 ^ exponent.toNat) ≤ numerator * 2 ^ (-exponent).toNat := by
  have above := @le_of_exponentFor numerator denominator nonzero
  have least : leastExponent ≤ exponentFor numerator denominator := Int.le_max_right _ _
  dsimp only at above ⊢
  generalize exponentFor numerator denominator = exponent at above least ⊢
  rcases Int.lt_or_eq_of_le least with greater | same
  · exact above greater
  · subst same
    have up : leastExponent.toNat = 0 := rfl
    have down : (-leastExponent).toNat = 1074 := rfl
    rw [up, down, Nat.pow_zero, Nat.mul_one]
    generalize tiny : 1074 = count
    have wide : 105 ≤ count := tiny ▸ by omega
    calc 2 ^ 52 * denominator ≤ 2 ^ 52 * 2 ^ 53 := Nat.mul_le_mul_left _ (Nat.le_of_lt narrow)
      _ = 2 ^ 105 := (pow_add 2 52 53).symm
      _ ≤ 2 ^ count := Nat.pow_le_pow_right Nat.two_pos wide
      _ ≤ numerator * 2 ^ count := Nat.le_mul_of_pos_left _ (Nat.pos_of_ne_zero nonzero)

/-- The ratio of a small number has no positive exponent. -/
theorem exponentFor_nonpos (nonzero : numerator ≠ 0) (small : numerator < 2 ^ 53)
    (positive : 0 < denominator) (narrow : denominator < 2 ^ 53) :
    exponentFor numerator denominator ≤ 0 := by
  have full := le_of_exponentFor_of_narrow nonzero narrow
  dsimp only at full
  generalize exponentFor numerator denominator = exponent at full ⊢
  by_contra high
  have twice : 2 ^ 1 ≤ 2 ^ exponent.toNat := Nat.pow_le_pow_right Nat.two_pos (by omega)
  have more : 1 * 2 ^ 1 ≤ denominator * 2 ^ exponent.toNat := Nat.mul_le_mul positive twice
  rw [Int.toNat_of_nonpos (show -exponent ≤ 0 by omega), Nat.pow_zero, Nat.mul_one] at full
  omega

/-- A rounded mantissa with all of its bits is a multiple of its power of two only if the ratio of
small numbers is whole. -/
theorem dvd_nearest_iff {power : Nat} (small : numerator < 2 ^ 53) (positive : 0 < denominator)
    (scaled : 0 < power) (full : 2 ^ 52 * denominator ≤ numerator * power) :
    power ∣ nearest (numerator * power) denominator ↔ denominator ∣ numerator := by
  constructor
  · rintro ⟨quotient, whole⟩
    -- The rest of the division is less than half of what the power asks for, so there is none.
    obtain ⟨notAbove, notBelow⟩ := nearest_near positive (numerator * power)
    have product : denominator * (power * quotient) = denominator * quotient * power := by ring
    rw [whole, product] at notAbove notBelow
    have inside : numerator * power < 2 ^ 53 * power := Nat.mul_lt_mul_of_pos_right small scaled
    refine ⟨quotient, ?_⟩
    rcases Nat.lt_trichotomy numerator (denominator * quotient) with less | same | more
    · have step := Nat.mul_le_mul_right power (Nat.succ_le_of_lt less)
      rw [Nat.succ_mul] at step
      omega
    · exact same
    · have step := Nat.mul_le_mul_right power (Nat.succ_le_of_lt more)
      rw [Nat.succ_mul] at step
      omega
  · rintro ⟨quotient, rfl⟩
    have product : denominator * quotient * power = quotient * power * denominator := by ring
    rw [product, nearest_mul positive]
    exact Nat.dvd_mul_left _ _

/-- A ratio of small numbers is rounded to a whole number only if it is whole. -/
theorem isWhole_ofRatio_iff (nonzero : numerator ≠ 0) (small : numerator < 2 ^ 53)
    (positive : 0 < denominator) (narrow : denominator < 2 ^ 53) (negative : Bool) :
    ofRatio negative numerator denominator ≠ .infinite negative ∧
      (isWhole (ofRatio negative numerator denominator) ↔ denominator ∣ numerator) := by
  have full := le_of_exponentFor_of_narrow nonzero narrow
  have low := exponentFor_nonpos nonzero small positive narrow
  rw [ofRatio_eq nonzero]
  dsimp only at full ⊢
  generalize exponentFor numerator denominator = exponent at full low ⊢
  have bounded : settled negative (nearest (numerator * 2 ^ (-exponent).toNat)
      (denominator * 2 ^ exponent.toNat)) exponent ≠ .infinite negative :=
    settled_ne_infinite (Int.lt_of_le_of_lt low (by decide)) _ _
  refine ⟨bounded, ?_⟩
  rw [(isWhole_settled _ _ _).resolve_left bounded, decide_eq_true_iff]
  rw [Int.toNat_of_nonpos low, Nat.pow_zero, Nat.mul_one] at full ⊢
  rw [Nat.mul_one]
  exact dvd_nearest_iff small positive (Nat.two_pow_pos _) full

end Binary64

namespace Quotient

open Binary64

variable {dividend divisor : Int}

/-- The quotient of integers is whole if the number that it is rounded to is, unless that is too
large. -/
theorem isWhole_ofIntegers_eq (dividend : Int) (nonzero : divisor ≠ 0) :
    ∃ negative, (ofIntegers dividend divisor).bind isWhole =
      if ofRatio negative dividend.natAbs divisor.natAbs = .infinite negative then
        .error (.ofText .overflow "integer division result too large for a float")
      else .ok (ofRatio negative dividend.natAbs divisor.natAbs).isWhole := by
  refine ⟨decide (dividend < 0) != decide (divisor < 0), ?_⟩
  rw [ofIntegers, if_neg nonzero]
  rcases ofRatio_cases (decide (dividend < 0) != decide (divisor < 0)) dividend.natAbs
    divisor.natAbs with same | ⟨mantissa, exponent, same⟩
  · rw [same, if_pos rfl]
    rfl
  · rw [same, if_neg nofun]
    rfl

/-- **Multiples pass.** An integer that another divides passes as its multiple, unless the quotient
is too large for the format. -/
theorem isWhole_of_dvd (nonzero : divisor ≠ 0) (divides : divisor ∣ dividend) :
    (ofIntegers dividend divisor).bind isWhole = .ok true ∨
      (ofIntegers dividend divisor).bind isWhole =
        .error (.ofText .overflow "integer division result too large for a float") := by
  obtain ⟨negative, rounded⟩ := isWhole_ofIntegers_eq dividend nonzero
  rw [rounded]
  rcases isWhole_ofRatio_of_dvd (Int.natAbs_pos.mpr nonzero) (Int.natAbs_dvd_natAbs.mpr divides)
    negative with large | whole
  · exact .inr (if_pos large)
  · split
    · exact .inr rfl
    · exact .inl (congrArg _ whole)

/-- **Only multiples pass.** Among integers of up to fifty-three bits one passes as a multiple of
another exactly if it is one. -/
theorem isWhole_ofIntegers (nonzero : divisor ≠ 0) (small : dividend.natAbs < 2 ^ 53)
    (narrow : divisor.natAbs < 2 ^ 53) :
    (ofIntegers dividend divisor).bind isWhole = .ok (decide (divisor ∣ dividend)) := by
  obtain ⟨negative, rounded⟩ := isWhole_ofIntegers_eq dividend nonzero
  rw [rounded]
  by_cases nothing : dividend = 0
  · rw [nothing, Int.natAbs_zero, ofRatio, if_pos rfl, zero, if_neg nofun, isWhole_finite,
      Nat.zero_mul]
    exact congrArg Except.ok (decide_eq_decide.mpr (iff_of_true (Nat.dvd_zero _) (Int.dvd_zero _)))
  · obtain ⟨bounded, whole⟩ := isWhole_ofRatio_iff (Int.natAbs_ne_zero.mpr nothing) small
      (Int.natAbs_pos.mpr nonzero) narrow negative
    rw [if_neg bounded]
    refine congrArg Except.ok (Bool.eq_iff_iff.mpr (whole.trans ?_))
    rw [decide_eq_true_iff, Int.natAbs_dvd_natAbs]

/-- From fifty-four bits on the quotient can lose a half. -/
example : (ofIntegers (2 ^ 53 + 1) 2).bind isWhole = .ok true := by rfl

end Quotient

end Hexwire
