import Hexwire.Bytes.Hex
import Hexwire.Document.Yaml.Cursor

/-! # Scalars of YAML

A plain scalar ends at a comment, at a colon before a blank, in a collection between brackets also
at the marks of that collection, and where the indentation ends. A quoted scalar ends at its mark.
In both a line end between words counts as a space and empty lines count as line ends. A block
scalar keeps its lines or folds them; its indentation is announced or taken from its first line, and
what follows its last line end is kept, cut to one line end or dropped.

As in documents of the other format, an escape that gives a surrogate alone gives the replacement
character, so that texts cannot be told apart by such a surrogate.
-/

namespace Hexwire.Document.Yaml.Scan

/-- A line end between words, with the empty lines after it. -/
def foldedBreak (first others : List Char) : List Char :=
  if first ≠ ['\n'] then first ++ others else if others.isEmpty then [' '] else others

/-- Whether a plain scalar stops before a character with the given text after it. -/
def stopsPlain (inFlow : Bool) (c : Char) (rest : List Char) : Bool :=
  endsWord (some c) ||
  (c = ':' && (endsWord rest.head? ||
    (inFlow && rest.head?.any fun next => ",[]\x7b\x7d".toList.contains next))) ||
  (inFlow && ",?[]\x7b\x7d".toList.contains c)

/-- The characters of a plain scalar up to the next blank. -/
def plainRun (inFlow : Bool) : List Char → List Char
  | [] => []
  | c :: rest => if stopsPlain inFlow c rest then [] else c :: plainRun inFlow rest

/-- Spaces and line ends inside a plain scalar; nothing if a mark between documents stands after a
line end. The count bounds the number of characters. -/
def plainBreaks : Nat → Scan (Option (List Char))
  | 0 => pure (some [])
  | fuel + 1 => do
    match ← peek with
    | none => pure (some [])
    | some c =>
      if c = ' ' then
        skip 1
        plainBreaks fuel
      else if isBreak c then
        let broken ← lineBreak
        if (← get).atDocumentMark then pure none
        else do
          let others ← plainBreaks fuel
          pure (others.map (broken ++ ·))
      else pure (some [])

/-- What separates two words of a plain scalar, and whether a line ended there. Nothing separates
what belongs to different scalars. -/
def plainGap : Scan (List Char × Bool) := do
  let spaces ← takeWhile (· = ' ')
  if (← peek).any isBreak then
    let first ← lineBreak
    if (← get).atDocumentMark then pure ([], true)
    else match ← plainBreaks (← get).rest.length with
      | none => pure ([], true)
      | some others => pure (foldedBreak first others, true)
  else pure (spaces, false)

/-- The words of a plain scalar from a word on, which stands after the given separation, and whether
a line ended after the last of them. The count bounds the number of words. -/
def plainWords (inFlow : Bool) (indent : Int) (separation : List Char) (broken : Bool) :
    Nat → Scan (List Char × Bool)
  | 0 => pure ([], broken)
  | fuel + 1 => do
    let word := plainRun inFlow (← get).rest
    if (← peek) = some '#' || word.isEmpty then pure ([], broken)
    else
      skip word.length
      let (next, broken) ← plainGap
      let text := separation ++ word
      let cursor ← get
      if next.isEmpty || cursor.head? = some '#' || (!inFlow && cursor.column < indent) then
        pure (text, broken)
      else
        let (others, broken) ← plainWords inFlow indent next broken fuel
        pure (text ++ others, broken)

/-- A plain scalar in a block of the given indentation, and whether a line ended after it. -/
def plain (inFlow : Bool) (indent : Int) : Scan (List Char × Bool) := do
  plainWords inFlow (indent + 1) [] false ((← get).rest.length + 1)

/-- The character for an escape of one letter. -/
def letterEscape? (c : Char) : Option Char :=
  ([('0', '\x00'), ('a', '\x07'), ('b', '\x08'), ('t', '\t'), ('\t', '\t'), ('n', '\n'),
    ('v', '\x0b'), ('f', '\x0c'), ('r', '\r'), ('e', '\x1b'), (' ', ' '), ('"', '"'), ('\\', '\\'),
    ('/', '/'), ('N', '\x85'), ('_', '\xa0'), ('L', '\u2028'), ('P', '\u2029')].find?
      (·.1 = c)).map (·.2)

/-- The number of digits of an escape by code. -/
def escapeWidth? (c : Char) : Option Nat :=
  if c = 'x' then some 2 else if c = 'u' then some 4 else if c = 'U' then some 8 else none

/-- The code that the given count of digits denote. -/
def code? (width : Nat) (text : List Char) : Option Nat :=
  let digits := text.take width
  if digits.length < width then none
  else digits.foldlM (fun total c => (Hex.digitValue? c).map (16 * total + ·)) 0

/-- The failure of a code beyond the last character. -/
def beyondLast (code : Nat) : Failure :=
  if code < 0x80000000 then .ofText .value "chr() arg not in range(0x110000)"
  else .ofText .overflow "Python int too large to convert to C int"

/-- The character for a code; two surrogates stand for one character and a lone one is replaced. -/
def ofCode (code : Nat) : Scan Char := do
  if 0x10FFFF < code then throw (.failed (beyondLast code))
  else if 0xD800 ≤ code && code < 0xDC00 then
    match (← get).rest with
    | '\\' :: 'u' :: rest => match code? 4 rest with
      | some low =>
        if 0xDC00 ≤ low && low < 0xE000 then
          skip 6
          pure (Char.ofNat (0x10000 + (code - 0xD800) * 0x400 + (low - 0xDC00)))
        else pure '\uFFFD'
      | none => pure '\uFFFD'
    | _ => pure '\uFFFD'
  else if 0xDC00 ≤ code && code < 0xE000 then pure '\uFFFD'
  else pure (Char.ofNat code)

/-- Line ends inside a quoted scalar with the blanks around them; a mark between documents must not
follow. The count bounds the number of lines. -/
def quotedBreaks : Nat → Scan (List Char)
  | 0 => fail
  | fuel + 1 => do
    require (!(← get).atDocumentMark)
    let _ ← takeWhile isBlank
    match ← lineBreak with
    | [] => pure []
    | broken => do
      let others ← quotedBreaks fuel
      pure (broken ++ others)

/-- An escape in a quoted scalar, after the backslash. -/
def escape : Scan (List Char) := do
  match ← peek with
  | none => fail
  | some c =>
    match letterEscape? c, escapeWidth? c with
    | some meant, _ => do
      skip 1
      pure [meant]
    | none, some width => do
      skip 1
      match code? width (← get).rest with
      | none => fail
      | some code => do
        skip width
        pure [← ofCode code]
    | none, none =>
      if isBreak c then do
        let _ ← lineBreak
        quotedBreaks ((← get).rest.length + 1)
      else fail

/-- The characters of a quoted scalar up to the next blank or the closing mark. The count bounds the
number of characters. -/
def quotedRun (double : Bool) : Nat → Scan (List Char)
  | 0 => fail
  | fuel + 1 => do
    let continuing (text : List Char) : Scan (List Char) := do
      let others ← quotedRun double fuel
      pure (text ++ others)
    match ← peek with
    | none => pure []
    | some c =>
      if endsWord (some c) then pure []
      else if !double && c = '\'' then
        if (← get).second? = some '\'' then
          skip 2
          continuing ['\'']
        else pure []
      else if double && c = '"' then pure []
      else if double && c = '\\' then
        skip 1
        let meant ← escape
        continuing meant
      else
        skip 1
        continuing [c]

/-- Blanks and line ends between the words of a quoted scalar. -/
def quotedGap : Scan (List Char) := do
  let blanks ← takeWhile isBlank
  match ← peek with
  | none => fail
  | some c =>
    if isBreak c then
      let first ← lineBreak
      let others ← quotedBreaks ((← get).rest.length + 1)
      pure (foldedBreak first others)
    else pure blanks

/-- The words of a quoted scalar up to its closing mark. The count bounds the number of words. -/
def quotedWords (double : Bool) : Nat → Scan (List Char)
  | 0 => fail
  | fuel + 1 => do
    let word ← quotedRun double ((← get).rest.length + 1)
    if (← peek) = some (if double then '"' else '\'') then
      skip 1
      pure word
    else
      let separation ← quotedGap
      let others ← quotedWords double fuel
      pure (word ++ separation ++ others)

/-- A quoted scalar. -/
def quoted (double : Bool) : Scan (List Char) := do
  skip 1
  quotedWords double ((← get).rest.length + 2)

/-- What becomes of the line ends at the end of a block scalar. -/
inductive Chomping where
  | drop
  | clip
  | keep
  deriving DecidableEq

/-- The sign that announces what becomes of line ends. -/
def chomping? (c : Option Char) : Option Chomping :=
  if c = some '+' then some .keep else if c = some '-' then some .drop else none

/-- The announced indentation of a block scalar, which is not zero. -/
def announcedIndent : Scan (Option Nat) := do
  match ← peek with
  | none => pure none
  | some c =>
    if c.isDigit then
      require (c ≠ '0')
      skip 1
      pure (some (c.toNat - 48))
    else pure none

/-- What stands after the mark of a block scalar, in either order. -/
def blockHeader : Scan (Chomping × Option Nat) := do
  let header ← match chomping? (← peek) with
    | some chomping => do
      skip 1
      pure (chomping, ← announcedIndent)
    | none => do
      match ← announcedIndent with
      | none => pure (.clip, none)
      | some indent => match chomping? (← peek) with
        | some chomping => do
          skip 1
          pure (chomping, some indent)
        | none => pure (.clip, some indent)
  require (endsField (← peek))
  restOfLine
  pure header

/-- The line ends before the first line of a block scalar, and the widest indentation among these
lines. The count bounds the number of characters. -/
def leadingBreaks (widest : Nat) : Nat → Scan (List Char × Nat)
  | 0 => pure ([], widest)
  | fuel + 1 => do
    match ← peek with
    | none => pure ([], widest)
    | some c =>
      if c = ' ' then
        skip 1
        leadingBreaks (max widest (← get).column) fuel
      else if isBreak c then
        let broken ← lineBreak
        let (others, widest) ← leadingBreaks widest fuel
        pure (broken ++ others, widest)
      else pure ([], widest)

/-- Spaces up to a column. -/
def indentTo (column : Nat) : Scan Unit := do
  let cursor ← get
  skip ((cursor.rest.take (column - cursor.column)).takeWhile (· = ' ')).length

/-- Empty lines in a block scalar with the indentation of the line after them. The count bounds the
number of lines. -/
def blockBreaks (indent : Nat) : Nat → Scan (List Char)
  | 0 => pure []
  | fuel + 1 => do
    indentTo indent
    match ← lineBreak with
    | [] => pure []
    | broken => do
      let others ← blockBreaks indent fuel
      pure (broken ++ others)

/-- The lines of a block scalar after the given empty lines, the end of the last line and the empty
lines after it. The count bounds the number of lines. -/
def blockLines (folded : Bool) (indent : Nat) (before : List Char) :
    Nat → Scan (List Char × List Char × List Char)
  | 0 => pure ([], [], before)
  | fuel + 1 => do
    let cursor ← get
    if cursor.column = indent && cursor.head?.isSome then
      let line ← takeWhile fun c => !isBreak c
      let broken ← lineBreak
      let after ← blockBreaks indent ((← get).rest.length + 1)
      let next ← get
      if next.column = indent && next.head?.isSome then
        let joined := folded && broken = ['\n'] && !cursor.head?.any isBlank &&
          !next.head?.any isBlank
        let joint := if joined then (if after.isEmpty then [' '] else []) else broken
        let (others, last, after) ← blockLines folded indent after fuel
        pure (before ++ line ++ joint ++ others, last, after)
      else pure (before ++ line, broken, after)
    else pure ([], [], before)

/-- A block scalar in a block of the given indentation. -/
def block (folded : Bool) (outer : Int) : Scan (List Char) := do
  skip 1
  let (chomping, announced) ← blockHeader
  let least := max 1 (outer + 1).toNat
  let fuel := (← get).rest.length + 1
  let (indent, before) ← match announced with
    | none => do
      let (before, widest) ← leadingBreaks 0 fuel
      pure (max least widest, before)
    | some width => do
      let indent := least + width - 1
      pure (indent, ← blockBreaks indent fuel)
  let (text, last, after) ← blockLines folded indent before fuel
  match chomping with
  | .drop => pure text
  | .clip => pure (text ++ last)
  | .keep => pure (text ++ last ++ after)

end Hexwire.Document.Yaml.Scan
