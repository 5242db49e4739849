import Hexwire.Dump
import Mathlib.Algebra.Order.Floor.Div

/-! # What it takes to be the chunks of a sequence

Pieces are a cut of a sequence when they concatenate to it, none of them is empty, all but the last
have the size of the cut, and the last is no longer (`Hexwire.IsCut`). The chunks of a sequence are
a cut of it, and the only one (`Hexwire.IsCut.eq_chunks`). Every cut has as many pieces as the size
goes into the sequence, rounded up (`Hexwire.IsCut.length`). Where the size divides the length of a
sequence, what follows the sequence is cut as it would be on its own (`Hexwire.chunks_append`).
-/

namespace Hexwire

variable {α : Type}

/-- Pieces are a cut of a sequence into pieces of one size, of which only the last may be
shorter. -/
structure IsCut (size : Nat) (items : List α) (pieces : List (List α)) : Prop where
  whole : pieces.flatten = items
  filled : ∀ piece ∈ pieces, piece ≠ []
  full : ∀ piece ∈ pieces.dropLast, piece.length = size
  bounded : ∀ piece ∈ pieces, piece.length ≤ size

namespace IsCut

variable {size : Nat} {items : List α} {piece : List α} {pieces : List (List α)}

theorem nil (size : Nat) : IsCut size ([] : List α) [] :=
  ⟨rfl, List.forall_mem_nil _, List.forall_mem_nil _, List.forall_mem_nil _⟩

/-- A piece goes before a cut. It may be shorter than the size only if nothing follows it. -/
theorem cons (cut : IsCut size items pieces) (filled : piece ≠ [])
    (bounded : piece.length ≤ size) (full : pieces ≠ [] → piece.length = size) :
    IsCut size (piece ++ items) (piece :: pieces) where
  whole := by rw [List.flatten_cons, cut.whole]
  filled := List.forall_mem_cons.mpr ⟨filled, cut.filled⟩
  full := by
    intro early member
    cases pieces with
    | nil => exact (List.not_mem_nil member).elim
    | cons next rest =>
        rw [List.dropLast_cons_cons] at member
        rcases List.mem_cons.mp member with rfl | member
        · exact full (List.cons_ne_nil _ _)
        · exact cut.full early member
  bounded := List.forall_mem_cons.mpr ⟨bounded, cut.bounded⟩

/-- What follows the first piece of a cut is a cut of what is left. -/
theorem tail (cut : IsCut size items (piece :: pieces)) : IsCut size pieces.flatten pieces where
  whole := rfl
  filled := (List.forall_mem_cons.mp cut.filled).2
  full := by
    intro early member
    cases pieces with
    | nil => exact (List.not_mem_nil member).elim
    | cons next rest => exact cut.full early (by
        rw [List.dropLast_cons_cons]
        exact List.mem_cons_of_mem _ member)
  bounded := (List.forall_mem_cons.mp cut.bounded).2

/-- **The count of pieces** is the length of the sequence over the size, rounded up. -/
theorem length (cut : IsCut size items pieces) : pieces.length = items.length ⌈/⌉ size := by
  induction pieces generalizing items with
  | nil =>
      rw [← cut.whole, Nat.ceilDiv_eq_add_pred_div]
      simp only [List.flatten_nil, List.length_nil, Nat.zero_add]
      rcases Nat.eq_zero_or_pos size with rfl | positive
      · rfl
      · exact (Nat.div_eq_of_lt (by omega)).symm
  | cons first rest ih =>
      have present := List.length_pos_iff.mpr (cut.filled first List.mem_cons_self)
      have short := cut.bounded first List.mem_cons_self
      have total : items.length = first.length + rest.flatten.length := by
        rw [← cut.whole, List.flatten_cons, List.length_append]
      rw [List.length_cons, ih cut.tail, total, Nat.ceilDiv_eq_add_pred_div,
        Nat.ceilDiv_eq_add_pred_div]
      cases rest with
      | nil =>
          rw [List.flatten_nil, List.length_nil, Nat.div_eq_of_lt (by omega)]
          exact (Nat.div_eq_of_lt_le (by omega) (by omega)).symm
      | cons next others =>
          have whole := cut.full first (by
            rw [List.dropLast_cons_cons]
            exact List.mem_cons_self)
          have shifted : first.length + (next :: others).flatten.length + size - 1 =
              (next :: others).flatten.length + size - 1 + size := by omega
          rw [shifted, Nat.add_div_right _ (by omega)]

end IsCut

/-- The chunks of a sequence are a cut of it. -/
theorem chunks_isCut {size : Nat} (positive : 0 < size) (items : List α) :
    IsCut size items (chunks size items) := by
  induction items using chunks.induct size with
  | case1 items done =>
      have empty : items = [] := done.resolve_left (by omega)
      rw [empty, chunks_nil]
      exact IsCut.nil size
  | case2 items continues ih =>
      have nonempty : items ≠ [] := fun empty => continues (.inr empty)
      have present := List.length_pos_iff.mpr nonempty
      rw [chunks_cons positive nonempty]
      have filled : items.take size ≠ [] := by
        rw [← List.length_pos_iff, List.length_take]
        omega
      -- Something is left over only if the first piece is full.
      have full : chunks size (items.drop size) ≠ [] → (items.take size).length = size := by
        intro more
        have left : items.drop size ≠ [] := by
          intro nothing
          rw [nothing, chunks_nil] at more
          exact more rfl
        rw [← List.length_pos_iff, List.length_drop] at left
        rw [List.length_take]
        omega
      have cut := ih.cons filled (List.length_take_le _ _) full
      rwa [List.take_append_drop] at cut

namespace IsCut

variable {β : Type} {size count : Nat} {items : List α} {piece : List α} {pieces : List (List α)}
  {expand : α → List β}

/-- The first piece of a cut is the head of the sequence, and the others are what follows. -/
theorem head (cut : IsCut size items (piece :: pieces)) :
    piece = items.take size ∧ pieces.flatten = items.drop size := by
  have whole : items = piece ++ pieces.flatten := by rw [← cut.whole, List.flatten_cons]
  cases pieces with
  | nil =>
      have short := cut.bounded piece List.mem_cons_self
      rw [List.flatten_nil, List.append_nil] at whole
      subst whole
      exact ⟨(List.take_of_length_le short).symm, (List.drop_of_length_le short).symm⟩
  | cons next rest =>
      have full := cut.full piece (by
        rw [List.dropLast_cons_cons]
        exact List.mem_cons_self)
      rw [whole]
      exact ⟨(List.take_left' full).symm, (List.drop_left' full).symm⟩

/-- **A sequence has one cut of a size.** -/
theorem eq_chunks (cut : IsCut size items pieces) : pieces = chunks size items := by
  induction pieces generalizing items with
  | nil => rw [← cut.whole, List.flatten_nil, chunks_nil]
  | cons piece rest ih =>
      obtain ⟨first, others⟩ := cut.head
      have present := List.length_pos_iff.mpr (cut.filled piece List.mem_cons_self)
      have short := cut.bounded piece List.mem_cons_self
      have nonempty : items ≠ [] := by
        rintro rfl
        rw [first, List.take_nil, List.length_nil] at present
        omega
      rw [chunks_cons (by omega) nonempty, ← first, ← others, ← ih cut.tail]

/-- Items that make equally many each make so many times as many. -/
theorem length_flatMap (each : ∀ item, (expand item).length = count) (items : List α) :
    (items.flatMap expand).length = items.length * count := by
  simp only [List.length_flatMap, each, List.map_const', List.sum_replicate_nat]

/-- Where each item of a sequence makes equally many, a cut of the sequence makes a cut. -/
theorem flatMap (cut : IsCut size items pieces) (positive : 0 < count)
    (each : ∀ item, (expand item).length = count) :
    IsCut (size * count) (items.flatMap expand) (pieces.map (List.flatMap expand)) where
  whole := by
    rw [← cut.whole, List.flatMap_def, List.map_flatten, List.flatten_flatten, List.map_map]
    rfl
  filled := by
    intro made member
    obtain ⟨piece, own, rfl⟩ := List.mem_map.mp member
    have present := List.length_pos_iff.mpr (cut.filled piece own)
    rw [← List.length_pos_iff, length_flatMap each]
    exact Nat.mul_pos present positive
  full := by
    intro made member
    rw [← List.map_dropLast] at member
    obtain ⟨piece, own, rfl⟩ := List.mem_map.mp member
    rw [length_flatMap each, cut.full piece own]
  bounded := by
    intro made member
    obtain ⟨piece, own, rfl⟩ := List.mem_map.mp member
    rw [length_flatMap each]
    exact Nat.mul_le_mul_right count (cut.bounded piece own)

/-- What the items of a sequence make, equally many each, is a cut. -/
theorem map (positive : 0 < count) (each : ∀ item, (expand item).length = count)
    (items : List α) : IsCut count (items.flatMap expand) (items.map expand) where
  whole := List.flatMap_def.symm
  filled := by
    intro made member
    obtain ⟨item, -, rfl⟩ := List.mem_map.mp member
    rw [← List.length_pos_iff, each]
    exact positive
  full := by
    intro made member
    obtain ⟨item, -, rfl⟩ := List.mem_map.mp (List.mem_of_mem_dropLast member)
    exact each item
  bounded := by
    intro made member
    obtain ⟨item, -, rfl⟩ := List.mem_map.mp member
    exact (each item).le

variable {more : List α} {others : List (List α)}

/-- No piece is shorter than the size where the size divides the length of the sequence. -/
theorem full_of_dvd (cut : IsCut size items pieces) (whole : size ∣ items.length) :
    ∀ piece ∈ pieces, piece.length = size := by
  induction pieces generalizing items with
  | nil => exact List.forall_mem_nil _
  | cons first rest ih =>
      have total : items.length = first.length + rest.flatten.length := by
        rw [← cut.whole, List.flatten_cons, List.length_append]
      rw [total] at whole
      cases rest with
      | nil =>
          have present := List.length_pos_iff.mpr (cut.filled first List.mem_cons_self)
          have enough : size ≤ first.length := Nat.le_of_dvd present whole
          have short := cut.bounded first List.mem_cons_self
          exact List.forall_mem_singleton.mpr (Nat.le_antisymm short enough)
      | cons next later =>
          have full := cut.full first (by
            rw [List.dropLast_cons_cons]
            exact List.mem_cons_self)
          rw [full] at whole
          have left := (Nat.dvd_add_right (Nat.dvd_refl size)).mp whole
          exact List.forall_mem_cons.mpr ⟨full, ih cut.tail left⟩

/-- A cut goes on after pieces that are all full. -/
theorem append (cut : IsCut size items pieces) (full : ∀ piece ∈ pieces, piece.length = size)
    (other : IsCut size more others) : IsCut size (items ++ more) (pieces ++ others) := by
  induction pieces generalizing items with
  | nil =>
      rw [← cut.whole]
      exact other
  | cons first rest ih =>
      obtain ⟨now, later⟩ := List.forall_mem_cons.mp full
      have joined := ih cut.tail later
      rw [← cut.whole, List.flatten_cons, List.append_assoc]
      exact joined.cons (cut.filled first List.mem_cons_self) now.le fun _ => now

end IsCut

variable {size : Nat}

/-- There are no pieces exactly if there are no items. -/
theorem chunks_eq_nil_iff (positive : 0 < size) (items : List α) :
    chunks size items = [] ↔ items = [] := by
  constructor
  · intro none
    rw [← flatten_chunks positive items, none, List.flatten_nil]
  · rintro rfl
    exact chunks_nil size

/-- Where the size divides the length of a sequence, what follows it is cut on its own. -/
theorem chunks_append (positive : 0 < size) {items : List α} (whole : size ∣ items.length)
    (more : List α) : chunks size (items ++ more) = chunks size items ++ chunks size more := by
  have cut := chunks_isCut positive items
  exact (cut.append (cut.full_of_dvd whole) (chunks_isCut positive more)).eq_chunks.symm

/-- A positive size gives pieces of this size. -/
theorem chunksSigned_of_positive (positive : 0 < size) (items : List α) :
    chunksSigned items size = .ok (chunks size items) := by
  have filled : ¬ (size : Int) = 0 := by omega
  rw [chunksSigned, if_neg filled, Int.toNat_natCast]

/-- **A sequence is cut in exactly one way,** be it octets or the characters of a text. Cutting it
into chunks of a positive size gives pieces that are a cut of it, and nothing else is one. They are
as many as the size goes into the length, rounded up, so there are none only for nothing. If the
size divides the length, whatever follows the sequence is cut as it is on its own. -/
theorem cut_uniquely (positive : 0 < size) (items : List α) :
    ∃ pieces, chunksSigned items size = .ok pieces ∧
      (∀ others, IsCut size items others ↔ others = pieces) ∧
      pieces.length = items.length ⌈/⌉ size ∧ (pieces = [] ↔ items = []) ∧
      (size ∣ items.length → ∀ more,
        chunksSigned (items ++ more) size = (chunksSigned more size).map (pieces ++ ·)) := by
  have cut := chunks_isCut positive items
  refine ⟨chunks size items, chunksSigned_of_positive positive items, fun others => ?_, cut.length,
    chunks_eq_nil_iff positive items, fun whole more => ?_⟩
  · constructor
    · intro other
      exact other.eq_chunks
    · rintro rfl
      exact cut
  · rw [chunksSigned_of_positive positive, chunksSigned_of_positive positive,
      chunks_append positive whole]
    rfl

/-- Four characters of several octets each are cut into pairs. A character that follows them is in
a piece of its own, and so is what follows two octets. -/
theorem cut_uniquely_pairs :
    (∀ others, IsCut 2 ['ä', 'ß', '€', '𝄞'] others ↔ others = [['ä', 'ß'], ['€', '𝄞']]) ∧
      chunksSigned (['ä', 'ß', '€', '𝄞'] ++ ['x']) (2 : Nat) =
        .ok [['ä', 'ß'], ['€', '𝄞'], ['x']] ∧
      chunksSigned ([0x0D, 0x0A] ++ [0x78] : Bytes) (2 : Nat) = .ok [[0x0D, 0x0A], [0x78]] := by
  obtain ⟨pieces, cut, unique, -, -, follows⟩ := cut_uniquely Nat.two_pos ['ä', 'ß', '€', '𝄞']
  obtain ⟨octets, halved, -, -, -, continues⟩ :=
    cut_uniquely Nat.two_pos ([0x0D, 0x0A] : Bytes)
  have pairs : chunks 2 ['ä', 'ß', '€', '𝄞'] = [['ä', 'ß'], ['€', '𝄞']] := by decide +kernel
  have pair : chunks 2 ([0x0D, 0x0A] : Bytes) = [[0x0D, 0x0A]] := by decide +kernel
  have last : chunks 2 ['x'] = [['x']] := by decide +kernel
  have single : chunks 2 ([0x78] : Bytes) = [[0x78]] := by decide +kernel
  rw [chunksSigned_of_positive Nat.two_pos, pairs] at cut
  rw [chunksSigned_of_positive Nat.two_pos, pair] at halved
  cases cut
  cases halved
  refine ⟨unique, (follows (by decide) _).trans ?_, (continues (by decide) _).trans ?_⟩
  · rw [chunksSigned_of_positive Nat.two_pos, last]
    rfl
  · rw [chunksSigned_of_positive Nat.two_pos, single]
    rfl

end Hexwire
