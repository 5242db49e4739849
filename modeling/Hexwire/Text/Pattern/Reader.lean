import Hexwire.Number.Integer
import Hexwire.Text.Alphanumeric
import Hexwire.Text.LetterCase
import Hexwire.Text.Pattern.Syntax
import Hexwire.Text.Quoted

/-! # Reading patterns

A pattern is written as text in which most characters stand for themselves. A backslash belongs to
the character after it, so reading proceeds by marks of one or two characters, and it looks one mark
ahead: a backslash at the very end is found as soon as the mark before it is taken. Switches at the
start of a pattern or of a group choose how case, lines and scripts are treated, and whether blanks
and comments are skipped. Text that is no pattern is reported with the place where reading stopped.
-/

namespace Hexwire.Text.Pattern

/-- Why text is no pattern. -/
inductive Fault where
  /-- The text is malformed, as the message says. -/
  | malformed (message : String)
  /-- A count of repetitions is too great. -/
  | tooMany
  /-- Switches that exclude each other are both set. -/
  | clash
  deriving DecidableEq, Repr

/-- A message with the place it is about, and its line and column where the text has several
lines. -/
def located (text : List Char) (message : String) (place : Nat) : String :=
  let before := text.take place
  let line := before.count '\n' + 1
  let column := (before.reverse.takeWhile (· ≠ '\n')).length + 1
  message ++ " at position " ++ toString place ++
    (if text.contains '\n' then
      " (line " ++ toString line ++ ", column " ++ toString column ++ ")"
    else "")

/-- The switches of a pattern. -/
structure Switches where
  ignoresCase : Bool := false
  manyLines : Bool := false
  dotMatchesAll : Bool := false
  skipsBlanks : Bool := false
  ascii : Bool := false
  wide : Bool := false
  deriving DecidableEq, Repr

namespace Switches

/-- The switches that are set in either of two. -/
def or (s t : Switches) : Switches :=
  ⟨s.ignoresCase || t.ignoresCase, s.manyLines || t.manyLines, s.dotMatchesAll || t.dotMatchesAll,
    s.skipsBlanks || t.skipsBlanks, s.ascii || t.ascii, s.wide || t.wide⟩

/-- The switches that are set in the first and not in the second. -/
def without (s t : Switches) : Switches :=
  ⟨s.ignoresCase && !t.ignoresCase, s.manyLines && !t.manyLines,
    s.dotMatchesAll && !t.dotMatchesAll, s.skipsBlanks && !t.skipsBlanks, s.ascii && !t.ascii,
    s.wide && !t.wide⟩

/-- Whether two have a switch in common. -/
def meets (s t : Switches) : Bool :=
  (s.ignoresCase && t.ignoresCase) || (s.manyLines && t.manyLines) ||
    (s.dotMatchesAll && t.dotMatchesAll) || (s.skipsBlanks && t.skipsBlanks)

/-- The switches inside a group that turns some on and others off. -/
def within (s on off : Switches) : Switches :=
  let base := if on.ascii || on.wide then { s with ascii := false, wide := false } else s
  (base.or on).without off

/-- How letters are compared under switches. -/
def folding (s : Switches) : Folding :=
  if !s.ignoresCase then .exact else if s.ascii then .ascii else .wide

/-- The switch that a letter stands for; the letter of one that has no effect stands for none. -/
def ofLetter? (c : Char) : Option Switches :=
  match c with
  | 'i' => some { ignoresCase := true }
  | 'm' => some { manyLines := true }
  | 's' => some { dotMatchesAll := true }
  | 'x' => some { skipsBlanks := true }
  | 'a' => some { ascii := true }
  | 'u' => some { wide := true }
  | 'L' => some {}
  | 't' => some {}
  | _ => none

end Switches

/-- A mark: a character, or a backslash with the character after it. -/
inductive Mark where
  | plain (c : Char)
  | escaped (c : Char)
  deriving DecidableEq, Repr

/-- A mark as it is written. -/
def Mark.text : Mark → String
  | plain c => c.toString
  | escaped c => "\\" ++ c.toString

/-- What is left of a text, and what is known of its groups. -/
structure Reader where
  whole : List Char
  rest : List Char
  /-- The switches that hold everywhere. -/
  switches : Switches := {}
  /-- The extents of the groups that are complete, by number. -/
  extents : List (Nat × Extent) := []
  /-- The count of groups that were opened, the whole included. -/
  opened : Nat := 1
  names : List (String × Nat) := []
  /-- The count of groups that were opened before the part that looks behind. -/
  behind : Option Nat := none
  /-- Groups that conditions ask for, with the places where they do so first. -/
  awaited : List (Nat × Nat) := []

/-- Reading a pattern. -/
abbrev Reading := StateT Reader (Except Fault)

namespace Reading

/-- The place of the next mark. -/
def place : Reading Nat := do
  let reader ← get
  pure (reader.whole.length - reader.rest.length)

/-- Fails with a message about a place. -/
def failAt {α : Type} (place : Nat) (message : String) : Reading α := do
  throw (.malformed (located (← get).whole message place))

/-- Fails with a message about the place that lies some characters back. -/
def fail {α : Type} (back : Nat) (message : String) : Reading α := do
  failAt ((← place) - back) message

/-- Continues with the given rest, unless a lone backslash is left. -/
def moveTo (rest : List Char) : Reading Unit := do
  if rest = ['\\'] then
    failAt ((← get).whole.length - 1) "bad escape (end of pattern)"
  modify fun reader => { reader with rest := rest }

/-- The next mark. -/
def peek : Reading (Option Mark) := do
  match (← get).rest with
  | '\\' :: c :: _ => pure (some (.escaped c))
  | c :: _ => pure (some (.plain c))
  | [] => pure none

/-- Takes the next mark. -/
def take : Reading (Option Mark) := do
  match (← get).rest with
  | '\\' :: c :: rest =>
    moveTo rest
    pure (some (.escaped c))
  | c :: rest =>
    moveTo rest
    pure (some (.plain c))
  | [] => pure none

/-- Takes a character if it is next. -/
def accept (c : Char) : Reading Bool := do
  if (← peek) = some (.plain c) then
    let _ ← take
    pure true
  else pure false

/-- Takes characters that satisfy a condition, up to a count. -/
def takeWhile (p : Char → Bool) : Nat → Reading (List Char)
  | 0 => pure []
  | count + 1 => do
    match ← peek with
    | some (.plain c) =>
      if p c then
        let _ ← take
        pure (c :: (← takeWhile p count))
      else pure []
    | _ => pure []

/-- Takes the text up to a character, which is taken too; the count bounds the marks. -/
def nameUntil (stop : Char) (noun : String) : Nat → String → Reading String
  | 0, taken => pure taken
  | count + 1, taken => do
    match ← take with
    | none =>
      if taken.isEmpty then fail 0 ("missing " ++ noun)
      else fail taken.length ("missing " ++ stop.toString ++ ", unterminated name")
    | some mark =>
      if mark = .plain stop then
        if taken.isEmpty then fail 1 ("missing " ++ noun) else pure taken
      else nameUntil stop noun count (taken ++ mark.text)

/-- Takes a name that ends in a character. -/
def name (stop : Char) (noun : String) : Reading String := do
  nameUntil stop noun ((← get).rest.length + 1) ""

end Reading

open Reading

/-- Whether a character is an octal digit. -/
def isOctal (c : Char) : Bool := '0' ≤ c && c ≤ '7'

/-- The value of hexadecimal or octal digits. -/
def valueOf (base : Nat) (digits : List Char) : Nat :=
  Integer.ofDigits base (digits.filterMap Integer.digitValue?)

/-- Whether text can be the name of a group. -/
def isName (text : String) : Bool :=
  let isPart (c : Char) : Bool := c = '_' || isAlphanumeric c
  match text.toList with
  | [] => false
  | c :: rest => isPart c && (decimalDigit? c).isNone && rest.all isPart

/-- The code of a control character that a letter stands for. -/
def controlCode? (c : Char) : Option Nat :=
  match c with
  | 'a' => some 7
  | 'f' => some 12
  | 'n' => some 10
  | 'r' => some 13
  | 't' => some 9
  | 'v' => some 11
  | '\\' => some 92
  | _ => none

/-- The class that a letter stands for. -/
def category? (switches : Switches) (c : Char) : Option Member :=
  let wide := !switches.ascii
  match c with
  | 'd' => some (.category .digit false wide)
  | 'D' => some (.category .digit true wide)
  | 's' => some (.category .space false wide)
  | 'S' => some (.category .space true wide)
  | 'w' => some (.category .word false wide)
  | 'W' => some (.category .word true wide)
  | _ => none

/-- The place between characters that a letter stands for. -/
def anchor? (switches : Switches) (c : Char) : Option Anchor :=
  match c with
  | 'A' => some .textStart
  | 'Z' => some .textEnd
  | 'b' => some (.boundary (!switches.ascii))
  | 'B' => some (.noBoundary (!switches.ascii))
  | _ => none

/-- An escape that makes no sense. -/
def badEscape {α : Type} (escape : String) : Reading α :=
  fail escape.length ("bad escape " ++ escape)

/-- The code point written by a fixed count of hexadecimal digits. -/
def hexCode (letter : Char) (count : Nat) : Reading Nat := do
  let digits ← Reading.takeWhile (fun c => (Hex.digitValue? c).isSome) count
  let escape := "\\" ++ letter.toString ++ String.ofList digits
  if digits.length ≠ count then fail escape.length ("incomplete escape " ++ escape)
  let code := valueOf 16 digits
  if 0x10FFFF < code then badEscape escape
  pure code

/-- An octal number of three digits must denote an octet. -/
def octalCode (digits : List Char) : Reading Nat := do
  let code := valueOf 8 digits
  if 0xFF < code then
    fail (digits.length + 1)
      ("octal escape value \\" ++ String.ofList digits ++ " outside of range 0-0o377")
  pure code

/-- The code point of an escape that means the same inside and outside a set, with the letter that
no rule takes as the last resort. -/
def plainCode (c : Char) : Reading Nat := do
  match c with
  | 'x' => hexCode c 2
  | 'u' => hexCode c 4
  | 'U' => hexCode c 8
  | 'N' =>
    if !(← accept '\x7b') then fail 0 "missing \x7b"
    let name ← Reading.name '\x7d' "character name"
    fail (name.length + 4) ("undefined character name " ++ quoted name)
  | c => if c.isAlphanum then badEscape ("\\" ++ c.toString) else pure c.toNat

/-- The pattern of a code point. -/
def ofCode (switches : Switches) (code : Nat) : Pattern :=
  .one false [.range code code] switches.folding

/-- A group that was completed can be asked for; one that is not, or that belongs to the part that
looks behind, cannot. -/
def checkBehind (number : Nat) : Reading Unit := do
  let reader ← get
  if let some before := reader.behind then
    if (reader.extents.lookup number).isNone then fail 0 "cannot refer to an open group"
    if before ≤ number then
      fail 0 "cannot refer to group defined in the same lookbehind subpattern"

/-- The pattern that repeats what a group took; the name has the given length. -/
def recallOf (switches : Switches) (number back : Nat) : Reading Pattern := do
  match (← get).extents.lookup number with
  | none => fail back "cannot refer to an open group"
  | some extent =>
    checkBehind number
    pure (.recall number switches.folding extent)

/-- The pattern of a number after a backslash: an octet in three octal digits, or a group. -/
def ofNumber (switches : Switches) (first : Char) : Reading Pattern := do
  let more ← Reading.takeWhile Char.isDigit 1
  let third ←
    if isOctal first && more.all isOctal && !more.isEmpty then Reading.takeWhile isOctal 1
    else pure []
  let digits := first :: more ++ third
  if !third.isEmpty then return ofCode switches (← octalCode digits)
  let number := valueOf 10 digits
  if number < (← get).opened then recallOf switches number (digits.length + 1)
  else fail digits.length ("invalid group reference " ++ toString number)

/-- The pattern of an escape outside a set. -/
def ofEscape (switches : Switches) (c : Char) : Reading Pattern := do
  if let some spot := anchor? switches c then return .anchor spot
  if let some category := category? switches c then return .one false [category] .exact
  if let some code := controlCode? c then return ofCode switches code
  if c = '0' then return ofCode switches (valueOf 8 (← Reading.takeWhile isOctal 2))
  if c.isDigit then return (← ofNumber switches c)
  return ofCode switches (← plainCode c)

/-- A part of a set that an escape stands for. -/
def memberOfEscape (switches : Switches) (c : Char) : Reading Member := do
  let ofCode (code : Nat) : Member := .range code code
  if let some code := controlCode? c then return ofCode code
  if c = 'b' then return ofCode 8
  if let some category := category? switches c then return category
  if isOctal c then return ofCode (← octalCode (c :: (← Reading.takeWhile isOctal 2)))
  return ofCode (← plainCode c)

/-- A part of a set that a mark stands for. -/
def memberOf (switches : Switches) : Mark → Reading Member
  | .escaped c => memberOfEscape switches c
  | .plain c => pure (.range c.toNat c.toNat)

/-- The range between two parts of a set, which must be single characters. -/
def rangeOf (low high : Mark) (first last : Member) : Reading Member := do
  let bad : Reading Member :=
    fail (low.text.length + 1 + high.text.length)
      ("bad character range " ++ low.text ++ "-" ++ high.text)
  match first, last with
  | .range a _, .range b _ => if b < a then bad else pure (.range a b)
  | _, _ => bad

/-- The parts of a set up to its closing bracket; a bracket that comes first stands for itself. The
count bounds the marks and `start` is the place of the set. -/
def members (switches : Switches) (start : Nat) : Nat → List Member → Reading (List Member)
  | 0, found => pure found
  | count + 1, found => do
    let some mark ← take | failAt start "unterminated character set"
    if mark = .plain ']' && !found.isEmpty then return found
    let first ← memberOf switches mark
    if ← accept '-' then
      let some high ← take | failAt start "unterminated character set"
      if high = .plain ']' then return found ++ [first, .range 45 45]
      let last ← memberOf switches high
      members switches start count (found ++ [← rangeOf mark high first last])
    else members switches start count (found ++ [first])

/-- The pattern of a set whose opening bracket was taken. -/
def setOf (switches : Switches) : Reading Pattern := do
  let start := (← place) - 1
  let negated ← accept '^'
  let found ← members switches start ((← get).rest.length + 1) []
  pure (.one negated found switches.folding)

/-- The greatest count of repetitions. -/
def mostRepetitions : Nat := Nat.pow 2 32 - 1

/-- A count of repetitions. -/
def countOf (digits : List Char) : Reading Nat := do
  let count := valueOf 10 digits
  if mostRepetitions ≤ count then throw .tooMany
  pure count

/-- The bounds of a repetition in braces, unless the braces stand for themselves. -/
def bounds : Reading (Option (Nat × Option Nat)) := do
  let here := (← get).rest
  let start ← place
  if (← peek) = some (.plain '\x7d') then return none
  let low ← Reading.takeWhile Char.isDigit here.length
  let high ←
    if ← accept ',' then Reading.takeWhile Char.isDigit here.length
    else pure low
  if !(← accept '\x7d') then
    moveTo here
    return none
  let least ← if low.isEmpty then pure 0 else countOf low
  if high.isEmpty then return some (least, none)
  let most ← countOf high
  if most < least then failAt start "min repeat greater than max repeat"
  return some (least, some most)

/-- Puts a repetition in place of the last part; `start` is the place of its sign. -/
def repeated (start : Nat) (least : Nat) (most : Option Nat) (done : List Pattern) :
    Reading (List Pattern) := do
  match done with
  | [] => failAt start "nothing to repeat"
  | .anchor _ :: _ => failAt start "nothing to repeat"
  | .repetition _ _ _ _ :: _ => failAt start "multiple repeat"
  | body :: before =>
    if ← accept '?' then return .repetition .least least most body :: before
    if ← accept '+' then return .repetition .all least most body :: before
    return .repetition .most least most body :: before

/-- Opens a group, under a name if it has one. -/
def openGroup (label : Option String) : Reading Nat := do
  let reader ← get
  let number := reader.opened
  if let some name := label then
    if let some other := reader.names.lookup name then
      fail (name.length + 1) ("redefinition of group name " ++ quoted name ++ " as group " ++
        toString number ++ "; was group " ++ toString other)
  set { reader with
    opened := number + 1
    names := match label with
      | some name => (name, number) :: reader.names
      | none => reader.names }
  pure number

/-- The name of a group, which must be a name. -/
def groupName (stop : Char) : Reading String := do
  let name ← Reading.name stop "group name"
  if !isName name then
    fail (name.length + 1) ("bad character in group name " ++ quoted name)
  pure name

/-- The number of the group with a name. -/
def named (name : String) : Reading Nat := do
  match (← get).names.lookup name with
  | some number => pure number
  | none => fail (name.length + 1) ("unknown group name " ++ quoted name)

/-- The group that a condition asks for. -/
def conditionOf : Reading Nat := do
  let name ← Reading.name ')' "group name"
  let number ←
    if isName name then named name
    else match Integer.parse 10 name.toList with
      | .ok number =>
        if number < 0 then
          fail (name.length + 1) ("bad character in group name " ++ quoted name)
        if number = 0 then fail (name.length + 1) "bad group number"
        if Nat.pow 2 30 - 1 ≤ number then
          fail (name.length + 1) ("invalid group reference " ++ toString number)
        let number := number.toNat
        let start := (← place) - name.length - 1
        modify fun reader =>
          if (reader.awaited.lookup number).isSome then reader
          else { reader with awaited := reader.awaited ++ [(number, start)] }
        pure number
      | .error _ => fail (name.length + 1) ("bad character in group name " ++ quoted name)
  checkBehind number
  pure number

/-- What the switches at the start of a group do. -/
inductive Change where
  /-- They hold for the whole pattern. -/
  | everywhere
  /-- They are turned on and off in the group. -/
  | inside (on off : Switches)

/-- What is said of a character that is no switch. -/
def unknownSwitch {α : Type} (mark : Mark) (missing : String) : Reading α :=
  match mark with
  | .plain c =>
    fail 1 (if isAlphanumeric c && (decimalDigit? c).isNone then "unknown flag" else missing)
  | .escaped _ => fail 2 missing

/-- Takes switches that are turned on, the first of which was taken; the character after them comes
with them. The count bounds the marks. -/
def turnedOn : Nat → Switches → Bool → Char → Reading (Switches × Bool × Char)
  | 0, on, global, c => pure (on, global, c)
  | count + 1, on, global, c => do
    if c = 'L' then fail 0 "bad inline flags: cannot use 'L' flag with a str pattern"
    let on := on.or ((Switches.ofLetter? c).getD {})
    let global := global || c = 't'
    if on.ascii && on.wide then
      fail 0 "bad inline flags: flags 'a', 'u' and 'L' are incompatible"
    let some mark ← take | fail 0 "missing -, : or )"
    match mark with
    | .plain next =>
      if next = ')' || next = '-' || next = ':' then pure (on, global, next)
      else if (Switches.ofLetter? next).isSome then turnedOn count on global next
      else unknownSwitch mark "missing -, : or )"
    | _ => unknownSwitch mark "missing -, : or )"

/-- Takes switches that are turned off, the first of which was taken, and the colon after them. The
count bounds the marks. -/
def turnedOff : Nat → Switches → Bool → Char → Reading (Switches × Bool)
  | 0, off, global, _ => pure (off, global)
  | count + 1, off, global, c => do
    if c = 'a' || c = 'u' || c = 'L' then
      fail 0 "bad inline flags: cannot turn off flags 'a', 'u' and 'L'"
    let off := off.or ((Switches.ofLetter? c).getD {})
    let global := global || c = 't'
    let some mark ← take | fail 0 "missing :"
    match mark with
    | .plain next =>
      if next = ':' then pure (off, global)
      else if (Switches.ofLetter? next).isSome then turnedOff count off global next
      else unknownSwitch mark "missing :"
    | _ => unknownSwitch mark "missing :"

/-- Takes the switches at the start of a group; their first character was taken. -/
def changeOf (c : Char) : Reading Change := do
  let count := (← get).rest.length + 1
  let (on, global, stop) ←
    if c = '-' then pure ({}, false, '-') else turnedOn count {} false c
  if stop = ')' then
    modify fun reader => { reader with switches := reader.switches.or on }
    return .everywhere
  if global then fail 1 "bad inline flags: cannot turn on global flag"
  if stop = ':' then return .inside on {}
  let some mark ← take | fail 0 "missing flag"
  let first ← match mark with
    | .plain next =>
      if (Switches.ofLetter? next).isSome then pure next else unknownSwitch mark "missing flag"
    | _ => unknownSwitch mark "missing flag"
  let (off, global) ← turnedOff count {} false first
  if global then fail 1 "bad inline flags: cannot turn off global flag"
  if on.meets off then fail 1 "bad inline flags: flag turned on and off"
  return .inside on off

/-- Skips a comment that ends in a closing bracket; the count bounds the marks. -/
def skipRemark (start : Nat) : Nat → Reading Unit
  | 0 => pure ()
  | count + 1 => do
    match ← take with
    | none => failAt start "missing ), unterminated comment"
    | some mark => if mark = .plain ')' then pure () else skipRemark start count

/-- Skips a comment that ends with its line; the count bounds the marks. -/
def skipLine : Nat → Reading Unit
  | 0 => pure ()
  | count + 1 => do
    match ← take with
    | none => pure ()
    | some mark => if mark = .plain '\n' then pure () else skipLine count

/-- Takes the bracket that closes what began at a place. -/
def closing (start : Nat) : Reading Unit := do
  if !(← accept ')') then failAt start "missing ), unterminated subpattern"

/-- What a group that takes no part of its own starts with. -/
inductive Opening where
  /-- Nothing came of it. -/
  | nothing
  | pattern (found : Pattern)
  | everywhere
  /-- A part that looks around. -/
  | look (behind negated : Bool)
  | condition
  | atomic
  /-- A group that is remembered, under a name if it has one. -/
  | capture (label : Option String)
  /-- A group that is not remembered and changes switches. -/
  | plain (on off : Switches)

/-- Takes what follows the bracket and question mark of a group that began at a place. -/
def openingOf (switches : Switches) (start : Nat) : Reading Opening := do
  let some mark ← take | fail 0 "unexpected end of pattern"
  match mark with
  | .plain 'P' =>
    if ← accept '<' then return .capture (some (← groupName '>'))
    if ← accept '=' then
      let name ← groupName ')'
      return .pattern (← recallOf switches (← named name) (name.length + 1))
    let some next ← take | fail 0 "unexpected end of pattern"
    fail (next.text.length + 2) ("unknown extension ?P" ++ next.text)
  | .plain ':' => return .plain {} {}
  | .plain '#' =>
    skipRemark start ((← get).rest.length + 1)
    return .nothing
  | .plain '=' => return .look false false
  | .plain '!' => return .look false true
  | .plain '<' =>
    let some next ← take | fail 0 "unexpected end of pattern"
    if next = .plain '=' then return .look true false
    if next = .plain '!' then return .look true true
    fail (next.text.length + 2) ("unknown extension ?<" ++ next.text)
  | .plain '(' => return .condition
  | .plain '>' => return .atomic
  | .plain c =>
    if c = '-' || (Switches.ofLetter? c).isSome then
      match ← changeOf c with
      | .everywhere => return .everywhere
      | .inside on off => return .plain on off
    else fail 2 ("unknown extension ?" ++ c.toString)
  | .escaped _ => fail (mark.text.length + 1) ("unknown extension ?" ++ mark.text)

mutual

/-- The branches of a choice. The count bounds the steps; `top` tells that the choice is the whole
pattern, whose switches later branches take over. -/
def branches : Nat → Switches → Bool → Bool → Reading (List Pattern)
  | 0, _, _, _ => pure []
  | count + 1, switches, top, first => do
    let branch ← parts count switches (top && first) []
    if ← accept '|' then
      let switches ← if top then pure (← get).switches else pure switches
      return branch :: (← branches count switches top false)
    return [branch]

/-- A choice, or its only branch. -/
def choiceOf : Nat → Switches → Bool → Reading Pattern
  | 0, _, _ => pure .empty
  | count + 1, switches, top => do
    match ← branches count switches top true with
    | [branch] => pure branch
    | several => pure (.choice several)

/-- The parts of a branch up to its end; those before, latest first, are given. The count bounds the
steps; `first` tells that the branch starts the whole pattern. -/
def parts : Nat → Switches → Bool → List Pattern → Reading Pattern
  | 0, _, _, done => pure (.sequence done.reverse)
  | count + 1, switches, first, done => do
    let some mark ← peek | return .sequence done.reverse
    if mark = .plain '|' || mark = .plain ')' then return .sequence done.reverse
    let start ← place
    let _ ← take
    match mark with
    | .escaped c => parts count switches first ((← ofEscape switches c) :: done)
    | .plain c =>
      if switches.skipsBlanks && isAsciiBlank c then parts count switches first done
      else if switches.skipsBlanks && c = '#' then
        skipLine ((← get).rest.length + 1)
        parts count switches first done
      else match c with
        | '[' => parts count switches first ((← setOf switches) :: done)
        | '.' =>
          let members := if switches.dotMatchesAll then [] else [Member.range 10 10]
          parts count switches first (.one true members .exact :: done)
        | '^' =>
          let spot := if switches.manyLines then Anchor.lineStart else .textStart
          parts count switches first (.anchor spot :: done)
        | '$' =>
          let spot := if switches.manyLines then Anchor.lineEnd else .lastLineEnd
          parts count switches first (.anchor spot :: done)
        | '?' => parts count switches first (← repeated start 0 (some 1) done)
        | '*' => parts count switches first (← repeated start 0 none done)
        | '+' => parts count switches first (← repeated start 1 none done)
        | '\x7b' => match ← bounds with
          | some (least, most) =>
            parts count switches first (← repeated start least most done)
          | none => parts count switches first (ofCode switches c.toNat :: done)
        | '(' => do
          let opening ←
            if ← accept '?' then openingOf switches start else pure (Opening.capture none)
          match opening with
          | .nothing => parts count switches first done
          | .pattern found => parts count switches first (found :: done)
          | .everywhere =>
            if !first || !done.isEmpty then
              failAt start "global flags not at the start of the expression"
            parts count (← get).switches first done
          | .look behind negated => do
            let before := (← get).behind
            if behind && before.isNone then
              modify fun reader => { reader with behind := some reader.opened }
            let body ← choiceOf count switches false
            if behind && before.isNone then
              modify fun reader => { reader with behind := none }
            closing start
            parts count switches first (.look behind negated body :: done)
          | .condition => do
            let number ← conditionOf
            let positive ← parts count switches false []
            let negative ←
              if ← accept '|' then
                let negative ← parts count switches false []
                if (← peek) = some (.plain '|') then
                  fail 0 "conditional backref with more than two branches"
                pure negative
              else pure .empty
            closing start
            parts count switches first (.conditional number positive negative :: done)
          | .atomic => do
            let body ← choiceOf count switches false
            closing start
            parts count switches first (.atomic body :: done)
          | .capture label => do
            let number ← openGroup label
            let body ← choiceOf count switches false
            closing start
            modify fun reader =>
              { reader with extents := (number, body.extent) :: reader.extents }
            parts count switches first (.group number body :: done)
          | .plain on off => do
            let body ← choiceOf count (switches.within on off) false
            closing start
            parts count switches first (.sequence [body] :: done)
        | c => parts count switches first (ofCode switches c.toNat :: done)

end

/-- Reads a whole pattern. -/
def whole : Reading Pattern := do
  let text := (← get).rest
  moveTo text
  let pattern ← choiceOf (4 * text.length + 8) {} true
  let reader ← get
  if reader.switches.ascii && reader.switches.wide then throw .clash
  if (← peek).isSome then fail 0 "unbalanced parenthesis"
  if let some (number, start) := reader.awaited.find? fun (number, _) => reader.opened ≤ number then
    failAt start ("invalid group reference " ++ toString number)
  if !pattern.looksFixed then throw (.malformed "look-behind requires fixed-width pattern")
  pure pattern

/-- The pattern that a text stands for. -/
def parse (text : List Char) : Except Fault Pattern :=
  (whole.run { whole := text, rest := text }).map (·.1)

end Hexwire.Text.Pattern
