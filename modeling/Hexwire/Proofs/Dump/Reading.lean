import Hexwire.Dump
import Hexwire.Proofs.Bytes.Spelling
import Hexwire.Proofs.Text.LetterCase
import Mathlib.Algebra.Group.Nat.Even
import Mathlib.Data.List.Forall2

/-! # What is read as a written payload

A payload is written in pairs of digits. Spaces in what people write do not count, wherever they
stand, and neither does the marker of base sixteen in front of what is left
(`Hexwire.Dump.unmarked`). What then remains is read just where it is an even count of digits that
is not zero (`Hexwire.Dump.IsWritten`), as the octets that the digits spell; anything else is
refused in one way (`Hexwire.Dump.reads_written`).
-/

namespace Hexwire

namespace Dump

open Hex Text

/-- The digits of base sixteen in either case. -/
def alphabet : List Char := "0123456789abcdefABCDEF".toList

/-- Text without the marker of base sixteen, if it starts with one. -/
def unmarked (text : List Char) : List Char :=
  if ['0', 'x'] <+: text ∨ ['0', 'X'] <+: text then text.drop 2 else text

/-- Text that stands for a payload: an even count of digits that is not zero. -/
def IsWritten (text : List Char) : Prop :=
  text ≠ [] ∧ Even text.length ∧ ∀ c ∈ text, c ∈ alphabet

/-- What text that stands for no payload is refused with. -/
def refusal (text : List Char) : Failure :=
  .application (some ("Incorrect hex-data: '" ++ String.ofList text ++
    "' is not a valid hex string")) 1

/-- Hexadecimal digits are the characters of the alphabet. -/
theorem isDigit_iff_mem_alphabet {c : Char} : isDigit c ↔ c ∈ alphabet := by
  constructor
  · intro digit
    obtain ⟨value, digit⟩ := digitValue?_of_isDigit digit
    have every : ∀ code < 128, isDigit (Char.ofNat code) → Char.ofNat code ∈ alphabet := by
      decide +kernel
    have code := (code_of_digitValue? digit).2
    have found := every c.toNat (by omega)
    rw [Char.ofNat_toNat] at found
    exact found (Option.isSome_iff_exists.mpr ⟨value, digit⟩)
  · -- Not over all characters, of which there are too many to decide anything.
    have every : alphabet.all isDigit := by decide
    exact List.all_eq_true.mp every c

variable {text other : List Char} {data : Bytes}

/-- The test for pairs of digits finds what is written properly. -/
theorem isPaired_iff : isPaired text ↔ IsWritten text := by
  unfold IsWritten
  simp only [← isDigit_iff_mem_alphabet]
  induction text using isPaired.induct with
  | case1 high low => simp [isPaired, show Even 2 from ⟨1, rfl⟩]
  | case2 high low rest more ih =>
      rw [isPaired.eq_2 _ _ _ more]
      simp only [Bool.and_eq_true, ih, List.forall_mem_cons, List.length_cons, Nat.even_add_one,
        not_not, ne_eq, reduceCtorEq, not_false_eq_true, true_and]
      constructor
      · rintro ⟨⟨first, second⟩, -, even, others⟩
        exact ⟨even, first, second, others⟩
      · rintro ⟨even, first, second, others⟩
        exact ⟨⟨first, second⟩, more, even, others⟩
  | case3 text notPair notMore =>
      match text with
      | [] => simp [isPaired]
      | [c] => simp [isPaired]
      | high :: low :: rest => exact (notMore high low rest rfl).elim

/-- The marker is found in letters of either case, and no other letter is taken for its own. -/
theorem isMarked_iff : isMarked text ↔ ['0', 'x'] <+: text ∨ ['0', 'X'] <+: text := by
  have zero (c : Char) : smallForm c.toNat = 0x30 ↔ '0' = c := by
    have code : '0' = c ↔ 48 = c.toNat := Char.toNat_inj.symm
    rw [smallForm_eq_iff (by decide), code]
    split <;> omega
  have letter (c : Char) : smallForm c.toNat = 0x78 ↔ 'x' = c ∨ 'X' = c := by
    have small : 'x' = c ↔ 120 = c.toNat := Char.toNat_inj.symm
    have capital : 'X' = c ↔ 88 = c.toNat := Char.toNat_inj.symm
    rw [smallForm_eq_iff (by decide), small, capital]
    split <;> omega
  match text with
  | [] => simp [isMarked]
  | [c] => simp [isMarked]
  | first :: second :: rest =>
      simp only [isMarked, List.take_succ_cons, List.take_zero, List.map_cons, List.map_nil,
        List.cons.injEq, and_true, decide_eq_true_eq, zero, letter, List.cons_prefix_cons,
        List.nil_prefix]
      exact and_or_left

/-- What a written payload is read from. -/
theorem stripped_eq_unmarked (text : List Char) :
    stripped text = unmarked (text.filter (· ≠ ' ')) := by
  rw [stripped, unmarked]
  simp only [isMarked_iff]

/-- What is written properly is made of digits. -/
theorem IsWritten.isDigit (written : IsWritten text) : ∀ c ∈ text, Hex.isDigit c :=
  fun c member => isDigit_iff_mem_alphabet.mpr (written.2.2 c member)

/-- What is written as a payload is read, as the octets that it spells. -/
theorem parse_of_isWritten {text : String} (written : IsWritten (stripped text.toList)) :
    ∃ data, Spells (stripped text.toList) data ∧ parse text = .ok data := by
  obtain ⟨size, doubled⟩ := written.2.1
  obtain ⟨data, spells⟩ := exists_spells (doubled.trans (Nat.two_mul size).symm) written.isDigit
  refine ⟨data, spells, ?_⟩
  unfold parse
  simp only [isPaired_iff.mpr written, ↓reduceIte, parse_eq_ok_iff.mpr spells]

/-- What is not written properly is refused for what is left of it. -/
theorem parse_of_not_isWritten {text : String} (unwritten : ¬ IsWritten (stripped text.toList)) :
    parse text = .error (refusal (stripped text.toList)) := by
  unfold parse
  rw [if_neg (mt isPaired_iff.mp unwritten)]
  rfl

/-- **Written payloads are read as what they spell.** -/
theorem parse_eq_ok_iff_spells {text : String} :
    parse text = .ok data ↔
      IsWritten (stripped text.toList) ∧ Spells (stripped text.toList) data := by
  by_cases written : IsWritten (stripped text.toList)
  · obtain ⟨read, spells, parsed⟩ := parse_of_isWritten written
    rw [parsed]
    constructor
    · rintro ⟨⟩
      exact ⟨written, spells⟩
    · rintro ⟨-, again⟩
      rw [spells.unique again]
  · rw [parse_of_not_isWritten written]
    exact ⟨fun read => (nomatch read), fun read => absurd read.1 written⟩

section Case

/-- A space is no letter, so nothing but a space differs from it in case. -/
theorem eq_space_of_sameLetter {c d : Char} (same : SameLetter c d) (space : c = ' ') :
    d = ' ' := by
  have plain : IsPlain 32 := by decide
  have form := same.smallForm_eq plain ((smallForm_eq_iff plain).mpr (by subst space; decide))
  rw [smallForm_eq_iff plain] at form
  have code : d = ' ' ↔ d.toNat = 32 := Char.toNat_inj.symm
  rw [code]
  split at form <;> omega

/-- Removing spaces keeps letters the same up to case. -/
theorem forall₂_filter (cased : List.Forall₂ SameLetter text other) :
    List.Forall₂ SameLetter (text.filter (· ≠ ' ')) (other.filter (· ≠ ' ')) := by
  refine List.rel_filter (fun c d same => ?_) cased
  simp only [decide_eq_true_eq]
  exact not_congr ⟨eq_space_of_sameLetter same, eq_space_of_sameLetter same.symm⟩

/-- The prefix is one in either case. -/
theorem isMarked_of_sameLetter (cased : List.Forall₂ SameLetter text other)
    (marked : isMarked text) : isMarked other := by
  cases cased with
  | nil => cases marked
  | cons first cased =>
      cases cased with
      | nil => simp [isMarked] at marked
      | cons second cased =>
          simp only [isMarked, List.take_succ_cons, List.take_zero, List.map_cons, List.map_nil,
            List.cons.injEq, and_true, decide_eq_true_eq] at marked ⊢
          exact ⟨first.smallForm_eq (by decide) marked.1, second.smallForm_eq (by decide) marked.2⟩

/-- Being the same letter works both ways. -/
theorem forall₂_symm (cased : List.Forall₂ SameLetter text other) :
    List.Forall₂ SameLetter other text :=
  cased.flip.imp fun _ _ same => SameLetter.symm same

/-- What is left without prefix and spaces is the same up to case. -/
theorem forall₂_stripped (cased : List.Forall₂ SameLetter text other) :
    List.Forall₂ SameLetter (stripped text) (stripped other) := by
  have compact := forall₂_filter cased
  have marked : isMarked (text.filter (· ≠ ' ')) ↔ isMarked (other.filter (· ≠ ' ')) :=
    ⟨isMarked_of_sameLetter compact, isMarked_of_sameLetter (forall₂_symm compact)⟩
  rw [stripped, stripped]
  simp only [marked]
  split
  · exact List.forall₂_drop 2 compact
  · exact compact

/-- Digits are digits in either case. -/
theorem isDigit_of_sameLetter (digits : ∀ c ∈ text, Hex.isDigit c)
    (cased : List.Forall₂ SameLetter text other) : ∀ c ∈ other, Hex.isDigit c := by
  induction cased with
  | nil => exact digits
  | cons same _ ih =>
      obtain ⟨first, rest⟩ := List.forall_mem_cons.mp digits
      refine List.forall_mem_cons.mpr ⟨?_, ih rest⟩
      rw [Hex.isDigit, ← same.digitValue?_eq]
      exact first

/-- What is written properly is so in either case. -/
theorem IsWritten.of_sameLetter (written : IsWritten text)
    (cased : List.Forall₂ SameLetter text other) : IsWritten other := by
  refine ⟨?_, cased.length_eq ▸ written.2.1, fun c member => ?_⟩
  · rintro rfl
    exact written.1 (List.forall₂_nil_right_iff.mp cased)
  · exact isDigit_iff_mem_alphabet.mp (isDigit_of_sameLetter written.isDigit cased c member)

/-- Digits in another case spell the same octets. -/
theorem spells_of_sameLetter (spells : Spells text data) (digits : ∀ c ∈ text, Hex.isDigit c)
    (cased : List.Forall₂ SameLetter text other) : Spells other data := by
  induction spells generalizing other with
  | nil =>
      cases cased
      exact .nil
  | blank blank _ _ =>
      obtain ⟨value, digit⟩ := digitValue?_of_isDigit (digits _ List.mem_cons_self)
      rw [isBlank_of_digitValue? digit] at blank
      cases blank
  | pair first second _ ih =>
      rcases cased with _ | ⟨high, _ | ⟨low, cased⟩⟩
      have later := ih (fun c member =>
        digits c (List.mem_cons_of_mem _ (List.mem_cons_of_mem _ member))) cased
      exact .pair (high.digitValue?_eq_some first) (low.digitValue?_eq_some second) later

/-- A payload that is read is read alike in any case. -/
theorem parse_of_sameLetter {text other : String}
    (cased : List.Forall₂ SameLetter text.toList other.toList) (read : parse text = .ok data) :
    parse other = .ok data := by
  obtain ⟨written, spells⟩ := parse_eq_ok_iff_spells.mp read
  have cased := forall₂_stripped cased
  exact parse_eq_ok_iff_spells.mpr
    ⟨written.of_sameLetter cased, spells_of_sameLetter spells written.isDigit cased⟩

end Case

/-- What is read depends on what is left of a written payload alone. -/
theorem parse_congr {text other : String} (same : stripped other.toList = stripped text.toList) :
    parse other = parse text := by
  unfold parse
  rw [same]

/-- A marker in front of text without one is taken off again. -/
theorem stripped_marked {text marker : String} (marks : marker ∈ ["0x", "0X"])
    (bare : stripped text.toList = text.toList.filter (· ≠ ' ')) :
    stripped (marker ++ text).toList = stripped text.toList := by
  rw [bare, stripped_eq_unmarked, String.toList_append, List.filter_append]
  obtain rfl | rfl : marker = "0x" ∨ marker = "0X" := by simpa using marks
  · exact if_pos (.inl (List.prefix_append _ _))
  · exact if_pos (.inr (List.prefix_append _ _))

/-- **Written payloads are read by their grammar.** Without spaces and a marker in front, text is
read just where it is an even count of digits that is not zero, as the octets that its pairs of
digits denote, and is refused in one way otherwise. So spaces may stand anywhere and digits be of
either case, and a marker may be put in front of what has none. -/
theorem reads_written (text : String) :
    let compact := text.toList.filter (· ≠ ' ')
    let digits := unmarked compact
    ((∃ data, parse text = .ok data) ↔
        digits ≠ [] ∧ Even digits.length ∧ ∀ c ∈ digits, c ∈ alphabet) ∧
      (∀ data, parse text = .ok data → digits.length = 2 * data.length ∧ Spells digits data) ∧
      (∀ failure, parse text = .error failure → failure = refusal digits) ∧
      (∀ other : String, other.toList.filter (· ≠ ' ') = compact → parse other = parse text) ∧
      (∀ other : String, List.Forall₂ SameLetter text.toList other.toList →
        ∀ data, parse other = .ok data ↔ parse text = .ok data) ∧
      ∀ data, parse text = .ok data → digits = compact →
        ∀ marker ∈ ["0x", "0X"], parse (marker ++ text) = .ok data := by
  intro compact digits
  have left : stripped text.toList = digits := stripped_eq_unmarked _
  refine ⟨⟨?_, ?_⟩, ?_, ?_, ?_, ?_, ?_⟩
  · rintro ⟨data, read⟩
    rw [← left]
    exact (parse_eq_ok_iff_spells.mp read).1
  · intro written
    rw [← left] at written
    obtain ⟨data, -, read⟩ := parse_of_isWritten written
    exact ⟨data, read⟩
  · intro data read
    obtain ⟨written, spells⟩ := parse_eq_ok_iff_spells.mp read
    rw [← left]
    exact ⟨spells.length written.isDigit, spells⟩
  · intro failure refused
    have unwritten : ¬ IsWritten (stripped text.toList) := by
      intro written
      obtain ⟨data, -, read⟩ := parse_of_isWritten written
      rw [read] at refused
      cases refused
    rw [parse_of_not_isWritten unwritten, left] at refused
    cases refused
    rfl
  · intro other same
    exact parse_congr (by rw [left, stripped_eq_unmarked, same])
  · intro other cased data
    exact ⟨parse_of_sameLetter (forall₂_symm cased), parse_of_sameLetter cased⟩
  · intro data read bare marker marks
    rw [parse_congr (stripped_marked marks (left.trans bare)), read]

/-- Spaces within the marker and within a pair, and a marker too many. -/
theorem reads_written_spaced :
    parse "0 XA b" = .ok [0xAB] ∧ parse "0x0xab" = .error (refusal ['0', 'x', 'a', 'b']) := by
  have digits : unmarked ("0 XA b".toList.filter (· ≠ ' ')) = ['A', 'b'] := by decide
  have twice : unmarked ("0x0xab".toList.filter (· ≠ ' ')) = ['0', 'x', 'a', 'b'] := by decide
  obtain ⟨reads, spelled, -⟩ := reads_written "0 XA b"
  obtain ⟨marked, -, refused, -⟩ := reads_written "0x0xab"
  rw [digits] at reads spelled
  rw [twice] at marked refused
  obtain ⟨data, read⟩ := reads.mpr (isPaired_iff.mp (by decide))
  have pair : Spells ['A', 'b'] [0xAB] := @Spells.pair _ _ 10 11 _ _ (by decide) (by decide) .nil
  rw [(spelled data read).2.unique pair] at read
  refine ⟨read, ?_⟩
  rcases result : parse "0x0xab" with failure | data
  · rw [refused failure result]
  · exact absurd (isPaired_iff.mpr (marked.mp ⟨data, result⟩)) (by decide)

end Dump

end Hexwire
