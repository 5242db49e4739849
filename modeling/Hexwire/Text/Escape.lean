import Hexwire.Text.Numeral

/-! # Terminal sequences in text

A terminal takes certain runs of characters as commands. They start with an escape character and a
bracket. A colour sequence has up to three digits, of any script, and ends in the letter m; a
control sequence has any parameters of digits, semicolons and question marks and ends in a letter.
Removing sequences is one pass: what comes together around a removed sequence is not looked at
again.
-/

namespace Hexwire.Text

/-- The size of the colour sequence that text starts with, zero if there is none. -/
def colourSize : List Char → Nat
  | '\x1b' :: '[' :: rest =>
    let digits := (rest.takeWhile fun c => (decimalDigit? c).isSome).length
    if 1 ≤ digits ∧ digits ≤ 3 ∧ rest[digits]? = some 'm' then digits + 3 else 0
  | _ => 0

/-- Whether a character is a parameter of a control sequence. -/
def isControlParameter (c : Char) : Bool := c.isDigit || c = ';' || c = '?'

/-- The size of the control sequence that text starts with, zero if there is none. -/
def controlSize : List Char → Nat
  | '\x1b' :: '[' :: rest =>
    let parameters := (rest.takeWhile isControlParameter).length
    match rest[parameters]? with
    | some c => if c.isAlpha then parameters + 3 else 0
    | none => 0
  | _ => 0

/-- Text without the runs whose sizes a function tells; the count says how many characters of a run
are still to go. -/
def dropRuns (size : List Char → Nat) : Nat → List Char → List Char
  | _, [] => []
  | pending + 1, _ :: rest => dropRuns size pending rest
  | 0, c :: rest =>
    match size (c :: rest) with
    | 0 => c :: dropRuns size 0 rest
    | more + 1 => dropRuns size more rest

/-- Text without colour sequences. -/
def withoutColours (text : String) : String := String.ofList (dropRuns colourSize 0 text.toList)

/-- Text without control sequences. -/
def withoutControls (text : String) : String := String.ofList (dropRuns controlSize 0 text.toList)

/-- Characters stay as they are where no run starts. -/
theorem dropRuns_of_all_zero {size : List Char → Nat} {text : List Char}
    (plain : ∀ tail, tail <:+ text → size tail = 0) : dropRuns size 0 text = text := by
  induction text with
  | nil => rfl
  | cons c rest ih =>
    rw [dropRuns, plain _ List.suffix_rfl]
    exact congrArg _ (ih fun tail within => plain tail (within.trans (List.suffix_cons c rest)))

end Hexwire.Text
