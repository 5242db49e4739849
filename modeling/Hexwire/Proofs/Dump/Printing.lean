import Hexwire.Proofs.Dump.Reading
import Hexwire.Proofs.Sequence.Chunks

/-! # What is printed of octets

Octets are printed in lines that show as many of them as the width, the last one perhaps fewer
(`Hexwire.Dump.Line`). The digits of all octets are cut into lines and the digits of each line into
pairs, which together cut the octets (`Hexwire.Dump.toList_of_pairs`). What was printed is read as
the octets when its lines are put on one, so different octets are printed differently
(`Hexwire.Dump.prints_readably`).
-/

namespace Hexwire

namespace Dump

open Hex

/-- The small digits of base sixteen. -/
def smallAlphabet : List Char := "0123456789abcdef".toList

/-- An octet is shown by two small digits. -/
structure Shows (octet : UInt8) (high low : Char) : Prop where
  high_small : high ∈ smallAlphabet
  low_small : low ∈ smallAlphabet
  denoted : ofDigits? high low = some octet

/-- A line that shows octets, one at least, with a space between one and the next. -/
inductive Line : Bytes → List Char → Prop where
  | last {octet : UInt8} {high low : Char} (shows : Shows octet high low) :
      Line [octet] [high, low]
  | more {octet : UInt8} {high low : Char} {octets : Bytes} {line : List Char}
      (shows : Shows octet high low) (rest : Line octets line) :
      Line (octet :: octets) (high :: low :: ' ' :: line)

/-- Text with a space for each line feed. -/
def joined (text : String) : String := text.map fun c => if c = '\n' then ' ' else c

/-- The line that is printed for octets. -/
def spacedPairs (octets : Bytes) : List Char := [' '].intercalate (octets.map lowerPair)

variable {data octets : Bytes} {lineLength : Nat}

/-- Small digits are in the small alphabet. -/
theorem lowerDigit_mem_smallAlphabet : ∀ value : Fin 16, lowerDigit value ∈ smallAlphabet := by
  decide

/-- Two small digits show the octet whose halves they are. -/
theorem shows_lowerPair (octet : UInt8) :
    Shows octet (lowerDigit (octet.toNat / 16)) (lowerDigit (octet.toNat % 16)) where
  high_small := lowerDigit_mem_smallAlphabet ⟨octet.toNat / 16, by have := octet.toNat_lt; omega⟩
  low_small := lowerDigit_mem_smallAlphabet ⟨octet.toNat % 16, by omega⟩
  denoted := (ofDigits?_digits octet).2

/-- Pairs with spaces between them are a line of their octets. -/
theorem line_spacedPairs (filled : octets ≠ []) : Line octets (spacedPairs octets) := by
  induction octets with
  | nil => exact absurd rfl filled
  | cons octet rest ih =>
      cases rest with
      | nil => exact .last (shows_lowerPair octet)
      | cons next others =>
          have line := Line.more (shows_lowerPair octet) (ih (List.cons_ne_nil _ _))
          rw [spacedPairs, List.map_cons, List.map_cons, List.intercalate_cons_cons]
          exact line

/-- Two digits stand for an octet. -/
@[simp]
theorem length_lowerPair (octet : UInt8) : (lowerPair octet).length = 2 := rfl

/-- The text of spaced octets is made of their pairs. -/
theorem toList_spaced (octets : Bytes) : (spaced octets).toList = spacedPairs octets := by
  have digits (octet : UInt8) : (String.ofList (lowerPair octet)).toList = lowerPair octet :=
    String.toList_ofList
  rw [spaced, String.toList_intercalate, List.map_map]
  exact congrArg [' '].intercalate (List.map_congr_left fun octet _ => digits octet)

/-- A line is printed pair by pair. -/
theorem toList_intercalate_chunks (octets : Bytes) :
    (" ".intercalate ((chunks 2 (octets.flatMap lowerPair)).map String.ofList)).toList =
      spacedPairs octets := by
  have pairs : chunks 2 (octets.flatMap lowerPair) = octets.map lowerPair :=
    (IsCut.map Nat.two_pos length_lowerPair octets).eq_chunks.symm
  rw [pairs, List.map_map]
  exact toList_spaced octets

/-- **The digits of all octets are cut where the octets are.** -/
theorem toList_of_pairs (positive : 0 < lineLength) (data : Bytes) :
    ∃ text, pairs data lineLength = .ok text ∧
      text.toList = ['\n'].intercalate ((chunks lineLength data).map spacedPairs) := by
  have filled : ¬ (lineLength : Int) * 2 = 0 := by omega
  have width : ((lineLength : Int) * 2).toNat = lineLength * 2 := by omega
  have lines : chunks (lineLength * 2) (data.flatMap lowerPair) =
      (chunks lineLength data).map (List.flatMap lowerPair) :=
    ((chunks_isCut positive data).flatMap Nat.two_pos length_lowerPair).eq_chunks.symm
  unfold pairs chunksSigned
  rw [if_neg filled, width, lines]
  refine ⟨_, rfl, ?_⟩
  rw [String.toList_intercalate, List.map_map, List.map_map]
  exact congrArg ['\n'].intercalate
    (List.map_congr_left fun octets _ => toList_intercalate_chunks octets)

/-- The digits of an octet are in the small alphabet. -/
theorem mem_smallAlphabet_of_mem_lowerPair {octet : UInt8} {c : Char}
    (member : c ∈ lowerPair octet) : c ∈ smallAlphabet := by
  obtain rfl | rfl : c = _ ∨ c = _ := by simpa [lowerPair] using member
  · exact (shows_lowerPair octet).high_small
  · exact (shows_lowerPair octet).low_small

/-- The digits of octets are in the small alphabet. -/
theorem mem_smallAlphabet_of_mem_flatMap {c : Char} (member : c ∈ data.flatMap lowerPair) :
    c ∈ smallAlphabet := by
  obtain ⟨octet, -, own⟩ := List.mem_flatMap.mp member
  exact mem_smallAlphabet_of_mem_lowerPair own

/-- The small digits of an octet spell it before what spells the others. -/
theorem spells_cons (octet : UInt8) {text : List Char} (rest : Spells text data) :
    Spells (lowerPair octet ++ text) (octet :: data) := by
  have pair := Spells.pair (digitValue?_upperHalf octet).2 (digitValue?_lowerHalf octet).2 rest
  rw [ofNat_halves] at pair
  exact pair

/-- The digits that are printed for octets spell them. -/
theorem spells_lowerPair (data : Bytes) : Spells (data.flatMap lowerPair) data := by
  induction data with
  | nil => exact .nil
  | cons octet rest ih => exact spells_cons octet ih

/-- The digits spell the octets with spaces between them as well. -/
theorem spells_spacedPairs (data : Bytes) : Spells (spacedPairs data) data := by
  induction data with
  | nil => exact .nil
  | cons octet rest ih =>
      cases rest with
      | nil => exact spells_cons octet .nil
      | cons next others =>
          rw [spacedPairs, List.map_cons, List.map_cons, List.intercalate_cons_cons,
            List.append_assoc]
          exact spells_cons octet (.blank (by decide) ih)

/-- The digits that are printed for octets, if there are any, stand for a payload. -/
theorem isWritten_lowerPair (filled : data ≠ []) : IsWritten (data.flatMap lowerPair) := by
  have size : (data.flatMap lowerPair).length = data.length * 2 :=
    IsCut.length_flatMap length_lowerPair data
  refine ⟨?_, ?_, fun c member => ?_⟩
  · rw [← List.length_pos_iff, size]
    exact Nat.mul_pos (List.length_pos_iff.mpr filled) Nat.two_pos
  · rw [size]
    exact even_iff_two_dvd.mpr (Nat.dvd_mul_left 2 _)
  · have every : smallAlphabet.all fun c => decide (c ∈ alphabet) := by decide
    have own := mem_smallAlphabet_of_mem_flatMap member
    exact of_decide_eq_true (List.all_eq_true.mp every c own)

/-- What is kept of lists with a separator between them that is dropped. -/
theorem filter_intercalate {α : Type} {keep : α → Bool} {separator : α}
    (dropped : keep separator = false) (lists : List (List α)) :
    ([separator].intercalate lists).filter keep = lists.flatMap (List.filter keep) := by
  induction lists with
  | nil => rfl
  | cons list rest ih =>
      cases rest with
      | nil => rw [List.intercalate_singleton, List.flatMap_singleton]
      | cons next others =>
          rw [List.intercalate_cons_cons, List.filter_append, List.filter_append, ih,
            List.flatMap_cons, List.filter_singleton, dropped]
          simp

/-- Of a line all but the spaces are digits. -/
theorem filter_spacedPairs {keep : Char → Bool} (space : keep ' ' = false)
    (digits : ∀ c ∈ smallAlphabet, keep c) (octets : Bytes) :
    (spacedPairs octets).filter keep = octets.flatMap lowerPair := by
  rw [spacedPairs, filter_intercalate space, List.flatMap_map]
  refine List.flatMap_congr fun octet _ => List.filter_eq_self.mpr fun c member => ?_
  exact digits c (mem_smallAlphabet_of_mem_lowerPair member)

/-- What is printed and put on one line is left with the digits of the octets. -/
theorem filter_joined (positive : 0 < lineLength) {text : String}
    (printed : text.toList = ['\n'].intercalate ((chunks lineLength data).map spacedPairs)) :
    (joined text).toList.filter (· ≠ ' ') = data.flatMap lowerPair := by
  have whole : (chunks lineLength data).flatMap (List.flatMap lowerPair) =
      data.flatMap lowerPair :=
    ((chunks_isCut positive data).flatMap Nat.two_pos length_lowerPair).whole
  have kept (octets : Bytes) :
      (spacedPairs octets).filter ((· ≠ ' ') ∘ fun c => if c = '\n' then ' ' else c) =
        octets.flatMap lowerPair :=
    filter_spacedPairs rfl (List.all_eq_true.mp (by decide)) octets
  have plain : smallAlphabet.all fun c => (if c = '\n' then ' ' else c) = c := by decide
  rw [joined, String.toList_map, List.filter_map, printed, filter_intercalate (by decide),
    List.flatMap_map, List.flatMap_congr fun octets _ => kept octets, whole]
  refine (List.map_congr_left fun c member => ?_).trans (List.map_id _)
  have own := mem_smallAlphabet_of_mem_flatMap member
  exact of_decide_eq_true (List.all_eq_true.mp plain c own)

/-- No marker is made of the digits that are printed. -/
theorem unmarked_lowerPair (data : Bytes) :
    unmarked (data.flatMap lowerPair) = data.flatMap lowerPair := by
  have foreign {letter : Char} (outside : letter ∉ smallAlphabet) :
      ¬ ['0', letter] <+: data.flatMap lowerPair := by
    intro starts
    have member : letter ∈ ['0', letter] := List.mem_cons_of_mem _ List.mem_cons_self
    exact outside (mem_smallAlphabet_of_mem_flatMap (starts.subset member))
  exact if_neg (not_or.mpr ⟨foreign (by decide), foreign (by decide)⟩)

/-- What is printed and put on one line is read as the octets. -/
theorem parse_joined (positive : 0 < lineLength) (filled : data ≠ []) {text : String}
    (printed : pairs data lineLength = .ok text) : parse (joined text) = .ok data := by
  obtain ⟨same, again, lines⟩ := toList_of_pairs positive data
  rw [printed] at again
  cases again
  have left : stripped (joined text).toList = data.flatMap lowerPair := by
    rw [stripped_eq_unmarked, filter_joined positive lines, unmarked_lowerPair]
  refine parse_eq_ok_iff_spells.mpr ?_
  rw [left]
  exact ⟨isWritten_lowerPair filled, spells_lowerPair data⟩

/-- **Octets are printed readably.** They are printed in lines joined by line feeds, as many as the
width goes into their count, rounded up; every line shows its share of the octets, which is the
width for all lines but the last. Put on one line they are read as they were, so whatever the
widths, no other octets are printed alike. -/
theorem prints_readably (data : Bytes) (lineLength : Nat) (positive : 0 < lineLength) :
    ∃ text pieces lines, pairs data lineLength = .ok text ∧
      text.toList = ['\n'].intercalate lines ∧ List.Forall₂ Line pieces lines ∧
      lines.length = data.length ⌈/⌉ lineLength ∧ IsCut lineLength data pieces ∧
      (data ≠ [] → parse (joined text) = .ok data) ∧
      ∀ (other : Bytes) (width : Nat), 0 < width → pairs other width = .ok text → other = data := by
  have cut := chunks_isCut positive data
  obtain ⟨text, printed, lines⟩ := toList_of_pairs positive data
  refine ⟨text, chunks lineLength data, (chunks lineLength data).map spacedPairs, printed, lines,
    ?_, ?_, cut, fun filled => parse_joined positive filled printed, ?_⟩
  · exact List.forall₂_map_right_iff.mpr (List.forall₂_same.mpr fun octets member =>
      line_spacedPairs (cut.filled octets member))
  · rw [List.length_map, cut.length]
  · intro other width wide alike
    obtain ⟨same, again, others⟩ := toList_of_pairs wide other
    rw [alike] at again
    cases again
    have digits : other.flatMap lowerPair = data.flatMap lowerPair :=
      (filter_joined wide others).symm.trans (filter_joined positive lines)
    have spells := spells_lowerPair other
    rw [digits] at spells
    exact spells.unique (spells_lowerPair data)

/-- Three octets in lines of two. -/
theorem prints_readably_twoLines :
    pairs [0x00, 0x0F, 0xFF] (2 : Nat) = .ok "00 0f\nff" ∧
      parse (joined "00 0f\nff") = .ok [0x00, 0x0F, 0xFF] := by
  obtain ⟨text, -, -, printed, -, -, -, -, read, -⟩ :=
    prints_readably [0x00, 0x0F, 0xFF] 2 (by decide)
  have shown : (pairs [0x00, 0x0F, 0xFF] (2 : Nat)).toOption = some "00 0f\nff" := by
    decide +kernel
  rw [printed] at shown
  cases shown
  exact ⟨printed, read (by decide)⟩

end Dump

end Hexwire
