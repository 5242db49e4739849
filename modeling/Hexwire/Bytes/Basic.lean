/-! # Octet sequences and signed cuts

Payloads, frames and queues are lists of octets. A cut position may be negative, in which case it
counts from the end of the sequence; positions outside the sequence stand for its nearest end. The
lemmas say that a cut never lies outside the sequence and that nonnegative positions cut as
`List.take` and `List.drop` do.
-/

namespace Hexwire

/-- Octets as they travel over a line or lie in a buffer. -/
abbrev Bytes := List UInt8

/-- The cut position that a signed index names in a sequence of the given length. -/
def cutPosition (length : Nat) (index : Int) : Nat :=
  if index < 0 then (length + index).toNat else min index.toNat length

/-- A cut lies within the sequence. -/
theorem cutPosition_le (length : Nat) (index : Int) : cutPosition length index ≤ length := by
  unfold cutPosition
  split <;> omega

/-- A nonnegative index cuts after that many items, or at the end. -/
theorem cutPosition_ofNat (length index : Nat) : cutPosition length index = min index length := by
  simp only [cutPosition, Int.toNat_natCast, ite_eq_right_iff]
  omega

/-- A sequence cut in two at a signed index. -/
def cutAt {α : Type} (items : List α) (index : Int) : List α × List α :=
  items.splitAt (cutPosition items.length index)

/-- The two parts of a cut make up the sequence. -/
theorem cutAt_append {α : Type} (items : List α) (index : Int) :
    (cutAt items index).1 ++ (cutAt items index).2 = items := by
  simp [cutAt, List.splitAt_eq]

/-- Cutting at a nonnegative index takes that many items. -/
theorem cutAt_ofNat {α : Type} (items : List α) (index : Nat) :
    cutAt items index = (items.take index, items.drop index) := by
  unfold cutAt
  rw [List.splitAt_eq, cutPosition_ofNat]
  by_cases within : index ≤ items.length
  · rw [Nat.min_eq_left within]
  · have beyond : items.length ≤ index := Nat.le_of_not_le within
    rw [Nat.min_eq_right beyond, List.take_of_length_le beyond, List.drop_of_length_le beyond,
      List.take_length, List.drop_length]

/-- Cutting at a negative index leaves that many items at the end. -/
theorem cutAt_negSucc {α : Type} (items : List α) (index : Nat) :
    cutAt items (Int.negSucc index) =
      (items.take (items.length - (index + 1)), items.drop (items.length - (index + 1))) := by
  have place : cutPosition items.length (Int.negSucc index) = items.length - (index + 1) := by
    unfold cutPosition
    rw [if_pos (Int.negSucc_lt_zero index)]
    omega
  rw [cutAt, List.splitAt_eq, place]

end Hexwire
