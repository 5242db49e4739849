/-! # Cutting a sequence into chunks

A sequence is cut into consecutive chunks of one size, the last of which may be shorter. The main
statements are that the chunks concatenate to the sequence (`flatten_chunks`), that none is empty
and that none is longer than the size.
-/

namespace Hexwire

/-- Consecutive chunks of at most `size` items; a size of zero gives no chunks. -/
def chunks {α : Type} (size : Nat) (items : List α) : List (List α) :=
  if size = 0 ∨ items = [] then []
  else items.take size :: chunks size (items.drop size)
  termination_by items.length
  decreasing_by
    rename_i continues
    have nonempty : items.length ≠ 0 :=
      fun h => continues (Or.inr (List.eq_nil_of_length_eq_zero h))
    simp only [List.length_drop]
    omega

/-- An empty sequence has no chunks. -/
@[simp] theorem chunks_nil {α : Type} (size : Nat) : chunks size ([] : List α) = [] := by
  rw [chunks]
  simp

/-- A nonempty sequence starts with the chunk of its first items. -/
theorem chunks_cons {α : Type} {size : Nat} {items : List α} (positive : 0 < size)
    (nonempty : items ≠ []) :
    chunks size items = items.take size :: chunks size (items.drop size) := by
  rw [chunks]
  simp [Nat.ne_of_gt positive, nonempty]

/-- The chunks concatenate to the sequence. -/
theorem flatten_chunks {α : Type} {size : Nat} (positive : 0 < size) (items : List α) :
    (chunks size items).flatten = items := by
  induction measured : items.length using Nat.strongRecOn generalizing items with
  | _ n ih =>
    by_cases empty : items = []
    · simp [empty]
    · have shorter : (items.drop size).length < n := by
        have := List.length_pos_iff.2 empty
        simp only [List.length_drop]
        omega
      rw [chunks_cons positive empty, List.flatten_cons, ih _ shorter _ rfl,
        List.take_append_drop]

end Hexwire
