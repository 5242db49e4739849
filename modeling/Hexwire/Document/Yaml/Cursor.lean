import Hexwire.Document.Fault

/-! # Positions in a YAML text

Reading proceeds through the text with a cursor that counts characters, lines and columns. Lines end
at a line feed, a next-line character or one of the two Unicode separators; the first two count as a
line feed, the separators stand for themselves. A byte order mark takes no column.
-/

namespace Hexwire.Document.Yaml

/-- The text that is left with the count of characters, lines and columns before it. -/
structure Cursor where
  rest : List Char
  index : Nat := 0
  line : Nat := 0
  column : Nat := 0

/-- The mark that may stand at the start of a text. -/
def byteOrderMark : Char := '\uFEFF'

/-- Whether a character ends a line. -/
def isBreak (c : Char) : Bool := c = '\n' || c = '\x85' || c = '\u2028' || c = '\u2029'

/-- Whether a character is a space or a tab. -/
def isBlank (c : Char) : Bool := c = ' ' || c = '\t'

/-- Whether a line ends here. -/
def endsLine : Option Char → Bool
  | none => true
  | some c => isBreak c

/-- Whether a line ends here or a space stands here. -/
def endsField : Option Char → Bool
  | none => true
  | some c => isBreak c || c = ' '

/-- Whether a line ends here or a blank stands here. -/
def endsWord : Option Char → Bool
  | none => true
  | some c => isBreak c || isBlank c

/-- Whether a character may stand in a name: a letter or digit of ASCII, a hyphen or an
underscore. -/
def isNameChar (c : Char) : Bool := c.isAlphanum || c = '-' || c = '_'

namespace Cursor

/-- The cursor after the next character. -/
def step (cursor : Cursor) : Cursor :=
  match cursor.rest with
  | [] => cursor
  | c :: rest =>
    if isBreak c then ⟨rest, cursor.index + 1, cursor.line + 1, 0⟩
    else
      ⟨rest, cursor.index + 1, cursor.line,
        if c = byteOrderMark then cursor.column else cursor.column + 1⟩

/-- The cursor after the given count of characters. -/
def advance (cursor : Cursor) : Nat → Cursor
  | 0 => cursor
  | count + 1 => cursor.step.advance count

/-- The next character. -/
def head? (cursor : Cursor) : Option Char := cursor.rest.head?

/-- The character after the next one. -/
def second? (cursor : Cursor) : Option Char := cursor.rest[1]?

/-- Whether three characters stand here with a blank, a line end or nothing after them. -/
def atMark (cursor : Cursor) (mark : Char) : Bool :=
  cursor.rest.take 3 = [mark, mark, mark] && endsWord cursor.rest[3]?

/-- Whether a mark between documents stands here. -/
def atDocumentMark (cursor : Cursor) : Bool := cursor.atMark '-' || cursor.atMark '.'

end Cursor

/-- Reading that moves a cursor. -/
abbrev Scan := StateT Cursor (Except Fault)

namespace Scan

/-- Fails because the text is malformed. -/
def fail {α : Type} : Scan α := throw .malformed

/-- Fails unless a condition holds. -/
def require (condition : Bool) : Scan Unit := if condition then pure () else fail

/-- The next character. -/
def peek : Scan (Option Char) := do pure (← get).head?

/-- Moves over the given count of characters. -/
def skip (count : Nat) : Scan Unit := modify (·.advance count)

/-- Takes the characters up to the first that does not satisfy a condition. -/
def takeWhile (p : Char → Bool) : Scan (List Char) := do
  let taken := (← get).rest.takeWhile p
  skip taken.length
  pure taken

/-- Takes the end of a line, if it is here. -/
def lineBreak : Scan (List Char) := do
  match ← peek with
  | none => pure []
  | some c =>
    if isBreak c then
      skip 1
      pure [if c = '\x85' then '\n' else c]
    else pure []

/-- Takes spaces and a comment. -/
def comment : Scan Unit := do
  let _ ← takeWhile (· = ' ')
  if (← peek) = some '#' then
    let _ ← takeWhile fun c => !isBreak c

/-- Takes what may follow on a line whose content is complete. -/
def restOfLine : Scan Unit := do
  comment
  require (endsLine (← peek))
  let _ ← lineBreak

/-- Takes spaces, line ends and comments, and tells whether there was a line end. The count bounds
the number of lines. -/
def gap : Nat → Scan Bool
  | 0 => pure false
  | fuel + 1 => do
    comment
    match ← lineBreak with
    | [] => pure false
    | _ => do
      let _ ← gap fuel
      pure true

end Scan

end Hexwire.Document.Yaml
