import Hexwire.Document.Json
import Hexwire.Proofs.Document.Faults

/-! # What documents of the stricter format fail with

A document of the stricter format fails for good only with a number of too many digits
(`Hexwire.Document.Json.settled_parse`); it is malformed otherwise.
-/

namespace Hexwire.Integer

/-- A magnitude is refused for more digits than the limit only. -/
theorem long_of_magnitude {base count : Nat} {text : List Char}
    (refused : magnitude base text = .error (.tooManyDigits count)) : digitLimit < count := by
  unfold magnitude at refused
  extract_lets marked body actual at refused
  clear_value marked body actual
  split at refused
  · cases refused
  · cases refused
  · cases read : digits? actual false body with
    | none => simp only [read, reduceCtorEq, Except.error.injEq] at refused
    | some values =>
        simp only [read] at refused
        split at refused
        · rename_i exceeds
          cases refused
          simp only [Bool.and_eq_true, decide_eq_true_eq] at exceeds
          exact exceeds.1
        · split at refused <;> cases refused

/-- A literal is refused for its length only when it has more digits than are read. -/
theorem long_of_parse {base count : Nat} {text : List Char}
    (refused : parse base text = .error (.tooManyDigits count)) : digitLimit < count := by
  -- A sign changes the value that is read and no fault.
  have signed {change : Int → Int} {text : List Char}
      (refused : Except.map change (do
        let value ← magnitude base text
        pure (value : Int)) = .error (.tooManyDigits count)) : digitLimit < count := by
    cases read : magnitude base text with
    | error fault =>
        rw [read] at refused
        cases refused
        exact long_of_magnitude read
    | ok value =>
        rw [read] at refused
        cases refused
  unfold parse at refused
  split at refused
  · exact signed refused
  · exact signed refused
  · exact signed refused

end Hexwire.Integer

namespace Hexwire.Document

namespace Json

/-- The characters of a text fail as an escape by a code that no character has. -/
theorem settled_characters (fuel : Nat) (text : List Char) :
    Settled Unbuildable (characters fuel text) := by
  induction fuel, text using characters.induct with
  | case1 | case2 => exact .malformed
  | case3 => exact .ok _
  | case4 fuel rest unknown =>
      simp only [characters, unknown]
      exact .malformed
  | case5 fuel rest c after meant ih =>
      simp only [characters, meant]
      exact .bind ih fun _ => .ok _
  | case6 fuel c rest other unknown =>
      simp only [characters, unknown]
      exact .malformed
  | case7 fuel letter rest other c meant ih =>
      simp only [characters, meant]
      exact .bind ih fun _ => .ok _
  | case8 fuel c rest noMark noCode noLetter control =>
      simp only [characters, control, ↓reduceIte]
      exact .malformed
  | case9 fuel c rest noMark noCode noLetter visible ih =>
      simp only [characters, visible, ↓reduceIte]
      exact .bind ih fun _ => .ok _

/-- A number fails if it has too many digits. -/
theorem settled_number (negative : Bool) (text : List Char) :
    Settled Unbuildable (number negative text) := by
  refine .ite .malformed (.ite ?_ ?_)
  · split
    · exact .ok _
    · rename_i refused
      exact .failed (.number (Integer.long_of_parse refused))
    · exact .malformed
  · split
    · exact .ok _
    · exact .malformed

theorem settled_plain (text : List Char) : Settled Unbuildable (plain text) := by
  unfold plain
  split
  · exact .ok _
  · split
    · exact settled_number _ _
    · exact settled_number _ _

/-- The parts of a document are settled under a bound. -/
structure SettledBelow (fuel : Nat) : Prop where
  value : ∀ text, Settled Unbuildable (value fuel text)
  items : ∀ text, Settled Unbuildable (items fuel text)
  entries : ∀ text, Settled Unbuildable (entries fuel text)

namespace SettledBelow

variable {fuel : Nat}

/-- A value is settled if everything with less fuel is. -/
theorem value_succ (below : SettledBelow fuel) (text : List Char) :
    Settled Unbuildable (Json.value (fuel + 1) text) := by
  unfold Json.value
  split
  · exact .bind (settled_characters _ _) fun _ => .ok _
  · split
    · exact .ok _
    · exact .bind (below.items _) fun _ => .ok _
  · split
    · exact .ok _
    · exact .bind (below.entries _) fun _ => .ok _
  · exact settled_plain _

/-- Items are settled if everything with less fuel is. -/
theorem items_succ (below : SettledBelow fuel) (text : List Char) :
    Settled Unbuildable (Json.items (fuel + 1) text) := by
  unfold Json.items
  refine .bind (below.value _) fun ⟨first, rest⟩ => ?_
  dsimp only
  split
  · exact .bind (below.items _) fun _ => .ok _
  · exact .ok _
  · exact .malformed

/-- Entries are settled if everything with less fuel is. -/
theorem entries_succ (below : SettledBelow fuel) (text : List Char) :
    Settled Unbuildable (Json.entries (fuel + 1) text) := by
  unfold Json.entries
  split
  · refine .bind (settled_characters _ _) fun ⟨key, rest⟩ => ?_
    dsimp only
    split
    · refine .bind (below.value _) fun ⟨first, rest⟩ => ?_
      dsimp only
      split
      · exact .bind (below.entries _) fun _ => .ok _
      · exact .ok _
      · exact .malformed
    · exact .malformed
  · exact .malformed

/-- Every part of a document is settled; the induction is on the bound of all parts at once. -/
theorem all (fuel : Nat) : SettledBelow fuel := by
  induction fuel with
  | zero => exact ⟨fun _ => .malformed, fun _ => .malformed, fun _ => .malformed⟩
  | succ fuel ih => exact ⟨ih.value_succ, ih.items_succ, ih.entries_succ⟩

end SettledBelow

/-- **Reading a document of the stricter format** has explained faults. -/
theorem settled_parse (text : List Char) : Settled Unbuildable (parse text) :=
  .bind ((SettledBelow.all _).value _) fun _ => .ite (.ok _) .malformed

end Json

end Hexwire.Document
