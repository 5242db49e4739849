import Hexwire.Proofs.Bytes.Spelling
import Hexwire.Text.LetterCase

/-! # The case of digits

Two characters are the same letter when they differ at most in case (`Hexwire.Text.SameLetter`).
Three ASCII letters have letters beyond ASCII that differ from them in case alone. None of the three
is a digit or the letter of a marker (`Hexwire.Text.smallForm_eq_iff`), so a digit has one value
whatever its case (`Hexwire.Text.SameLetter.digitValue?_eq`).
-/

namespace Hexwire.Text

/-- Two characters differ at most in case: they have the same small form, or small forms with a
capital letter in common. -/
def SameLetter (c d : Char) : Prop :=
  smallForm c.toNat = smallForm d.toNat ∨
    ∃ kin ∈ smallKins, smallForm c.toNat ∈ kin ∧ smallForm d.toNat ∈ kin

/-- Codes of ASCII other than those of the letters `i`, `k` and `s`. -/
def IsPlain (code : Nat) : Prop := code < 128 ∧ code ≠ 105 ∧ code ≠ 107 ∧ code ≠ 115

instance (code : Nat) : Decidable (IsPlain code) := inferInstanceAs (Decidable (_ ∧ _))

/-- The capital letters of ASCII are the first run. -/
theorem capitalRuns_eq : capitalRuns = (65, 90, 1, 32) :: capitalRuns.tail := rfl

/-- The capital letters beyond ASCII have small forms beyond ASCII, but for one capital of `i` and
one of `k`. -/
theorem beyond_of_mem_tail : ∀ run ∈ capitalRuns.tail, 128 ≤ run.1 ∧
    (128 ≤ run.1 + run.2.2.2 ∨
      run.2.1 = run.1 ∧ (run.1 + run.2.2.2 = 105 ∨ run.1 + run.2.2.2 = 107)) := by
  decide +kernel

/-- Letters with more than one relative are not plain. -/
theorem not_isPlain_of_mem_kin : ∀ kin ∈ smallKins, ∀ small ∈ kin, ¬ IsPlain small := by
  decide +kernel

/-- A run has every so many of the codes between its ends. -/
theorem inRun_iff {first last step code : Nat} :
    inRun first last step code ↔ first ≤ code ∧ code ≤ last ∧ (code - first) % step = 0 := by
  simp only [inRun, Bool.and_eq_true, decide_eq_true_eq, and_assoc]

/-- The small form of an ASCII capital. -/
theorem smallForm_of_capital {code : Nat} (capital : 65 ≤ code ∧ code ≤ 90) :
    smallForm code = code + 32 := by
  have first : inRun 65 90 1 code := inRun_iff.mpr ⟨capital.1, capital.2, Nat.mod_one _⟩
  rw [smallForm, capitalRuns_eq]
  simp only [List.find?_cons, first]
  rfl

/-- The small form of anything else is of ASCII only if it is the code itself, but for two. -/
theorem smallForm_of_not_capital {code : Nat} (other : ¬ (65 ≤ code ∧ code ≤ 90)) :
    smallForm code = code ∨
      128 ≤ code ∧ (128 ≤ smallForm code ∨ smallForm code = 105 ∨ smallForm code = 107) := by
  have outside : inRun 65 90 1 code = false := Bool.eq_false_iff.mpr fun inside =>
    other ⟨(inRun_iff.mp inside).1, (inRun_iff.mp inside).2.1⟩
  rw [smallForm, capitalRuns_eq]
  simp only [List.find?_cons, outside]
  generalize found : capitalRuns.tail.find? _ = run
  cases run with
  | none => exact .inl rfl
  | some run =>
      obtain ⟨first, last, step, shift⟩ := run
      have inside := List.find?_some found
      dsimp only at inside
      obtain ⟨low, high, -⟩ := inRun_iff.mp inside
      have beyond := beyond_of_mem_tail _ (List.mem_of_find?_eq_some found)
      dsimp only at beyond ⊢
      omega

/-- **Plain small forms** are those of ASCII characters: of the capital or of the letter itself. -/
theorem smallForm_eq_iff {code small : Nat} (plain : IsPlain small) :
    smallForm code = small ↔
      code < 128 ∧ (if 65 ≤ code ∧ code ≤ 90 then code + 32 else code) = small := by
  obtain ⟨ascii, notI, notK, -⟩ := plain
  by_cases capital : 65 ≤ code ∧ code ≤ 90
  · rw [smallForm_of_capital capital, if_pos capital]
    omega
  · have forms := smallForm_of_not_capital capital
    rw [if_neg capital]
    omega

namespace SameLetter

variable {c d : Char}

theorem symm (same : SameLetter c d) : SameLetter d c := by
  obtain equal | ⟨kin, member, first, second⟩ := same
  · exact .inl equal.symm
  · exact .inr ⟨kin, member, second, first⟩

/-- Of one letter in two cases, both have a plain small form or none has. -/
theorem smallForm_eq (same : SameLetter c d) {small : Nat} (plain : IsPlain small)
    (form : smallForm c.toNat = small) : smallForm d.toNat = small := by
  obtain equal | ⟨kin, member, first, -⟩ := same
  · exact equal.symm.trans form
  · rw [form] at first
    exact absurd plain (not_isPlain_of_mem_kin kin member small first)

/-- A digit keeps its value in the other case. -/
theorem digitValue?_eq_some (same : SameLetter c d) {value : Nat}
    (digit : Hex.digitValue? c = some value) : Hex.digitValue? d = some value := by
  rw [Hex.digitValue?_eq_some_iff] at digit ⊢
  have plain : IsPlain (if 65 ≤ c.toNat ∧ c.toNat ≤ 90 then c.toNat + 32 else c.toNat) := by
    unfold IsPlain
    split <;> omega
  have form := (smallForm_eq_iff plain).mpr ⟨by omega, rfl⟩
  have other := (smallForm_eq_iff plain).mp (same.smallForm_eq plain form)
  split at other <;> split at other <;> omega

/-- **The value of a digit does not depend on its case**, and what is no digit is none in any. -/
theorem digitValue?_eq (same : SameLetter c d) : Hex.digitValue? c = Hex.digitValue? d :=
  Option.ext fun _ => ⟨same.digitValue?_eq_some, same.symm.digitValue?_eq_some⟩

end SameLetter

end Hexwire.Text
