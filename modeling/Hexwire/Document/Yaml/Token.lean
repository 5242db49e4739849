import Hexwire.Document.Yaml.Lexeme
import Hexwire.Document.Yaml.Scalar

/-! # Tokens of YAML

The structure of a YAML text shows in its indentation and in the marks between its scalars. Tokens
make it explicit: blocks get a start and an end, and what stands before a colon gets a mark of a
key. Whether something is a key is known only at the colon, so each scalar, alias, tag, anchor or
opening bracket that may start a key is remembered as a candidate until the line ends or 1024
characters have passed; a candidate at the indentation of its block must become a key.
-/

namespace Hexwire.Document.Yaml

/-- A token. -/
inductive Token where
  | directive (directive : Directive)
  | documentStart
  | documentEnd
  | blockSequenceStart
  | blockMappingStart
  | blockEnd
  | flowSequenceStart
  | flowSequenceEnd
  | flowMappingStart
  | flowMappingEnd
  | key
  | value
  | blockEntry
  | flowEntry
  | alias (name : String)
  | anchor (name : String)
  | tag (written : WrittenTag)
  | scalar (plain : Bool) (text : List Char)
  /-- What ends the tokens where reading on fails with a failure of the host. -/
  | broken (failure : Failure)

/-- A place where a key may start: the token it would stand before, where it is in the text, and
whether it must become a key. -/
structure Candidate where
  position : Nat
  required : Bool
  index : Nat
  line : Nat
  column : Nat

/-- The state of reading tokens: the indentation of the current block with those of the blocks
around it, the number of open brackets, whether a key may start here, and the candidate of each
number of open brackets. -/
structure TokenStream where
  cursor : Cursor
  tokens : Array Token := #[]
  indent : Int := -1
  outer : List Int := []
  depth : Nat := 0
  keyAllowed : Bool := true
  candidates : List (Nat × Candidate) := []

/-- Reading of tokens. -/
abbrev Tokenizer := StateT TokenStream (Except Fault)

namespace Tokenizer

/-- Fails because the text is malformed. -/
def fail {α : Type} : Tokenizer α := throw .malformed

/-- Reads with the cursor. -/
def scan {α : Type} (reading : Scan α) : Tokenizer α := do
  let stream ← get
  match reading.run stream.cursor with
  | .error fault => throw fault
  | .ok (found, cursor) => do
    set { stream with cursor := cursor }
    pure found

/-- Adds a token at the end. -/
def emit (token : Token) : Tokenizer Unit :=
  modify fun stream => { stream with tokens := stream.tokens.push token }

/-- Adds a token before the one at a position. -/
def emitAt (position : Nat) (token : Token) : Tokenizer Unit :=
  modify fun stream => { stream with tokens := stream.tokens.insertIdxIfInBounds position token }

/-- Says whether a key may start next. -/
def allowKey (allowed : Bool) : Tokenizer Unit :=
  modify fun stream => { stream with keyAllowed := allowed }

/-- Whether the cursor is in a collection between brackets. -/
def inFlow : Tokenizer Bool := do pure ((← get).depth ≠ 0)

/-- Forgets the candidate of the current depth, which must not be a required one. -/
def dropCandidate : Tokenizer Unit := do
  let stream ← get
  match stream.candidates.find? (·.1 = stream.depth) with
  | none => pure ()
  | some (_, candidate) =>
    if candidate.required then fail
    else set { stream with candidates := stream.candidates.filter (·.1 ≠ stream.depth) }

/-- Whether a candidate is too far away to become a key. -/
def isStale (cursor : Cursor) (candidate : Candidate) : Bool :=
  candidate.line ≠ cursor.line || 1024 < cursor.index - candidate.index

/-- Forgets the candidates that are too far away, which must not be required ones. -/
def dropStale : Tokenizer Unit := do
  let stream ← get
  if stream.candidates.any fun (_, candidate) =>
      isStale stream.cursor candidate && candidate.required then fail
  else
    set { stream with
      candidates := stream.candidates.filter fun (_, candidate) =>
        !isStale stream.cursor candidate }

/-- Remembers a candidate here, if a key may start here. -/
def saveCandidate : Tokenizer Unit := do
  if (← get).keyAllowed then
    dropCandidate
    let stream ← get
    let cursor := stream.cursor
    let candidate : Candidate :=
      ⟨stream.tokens.size, stream.depth = 0 && stream.indent = cursor.column, cursor.index,
        cursor.line, cursor.column⟩
    set { stream with candidates := (stream.depth, candidate) :: stream.candidates }

/-- Ends the blocks that are indented more than a column. -/
def unwind (column : Int) : Tokenizer Unit := do
  if !(← inFlow) then
    let stream ← get
    let ended := ((stream.indent :: stream.outer).takeWhile (column < ·)).length
    let left := (stream.indent :: stream.outer).drop ended
    set { stream with
      tokens := stream.tokens ++ Array.replicate ended Token.blockEnd
      indent := left.headD (-1)
      outer := left.drop 1 }

/-- Starts a block at a column if it is indented more than the current one; tells whether it is. -/
def indentTo (column : Nat) : Tokenizer Bool := do
  let stream ← get
  if stream.indent < column then
    set { stream with indent := column, outer := stream.indent :: stream.outer }
    pure true
  else pure false

/-- Starts a block at the cursor where a mark of the block may stand. -/
def startBlock (start : Token) : Tokenizer Unit := do
  if !(← inFlow) then
    let stream ← get
    if !stream.keyAllowed then fail
    if ← indentTo stream.cursor.column then emit start

/-- A mark of one character. -/
def mark (token : Token) : Tokenizer Unit := do
  scan (Scan.skip 1)
  emit token

/-- A mark between documents. -/
def documentMark (token : Token) : Tokenizer Unit := do
  unwind (-1)
  dropCandidate
  allowKey false
  scan (Scan.skip 3)
  emit token

/-- A directive. -/
def directive : Tokenizer Unit := do
  unwind (-1)
  dropCandidate
  allowKey false
  let found ← scan Scan.directive
  emit (.directive found)

/-- An opening bracket. -/
def flowStart (token : Token) : Tokenizer Unit := do
  saveCandidate
  modify fun stream => { stream with depth := stream.depth + 1 }
  allowKey true
  mark token

/-- A closing bracket, which needs an opening one. -/
def flowEnd (token : Token) : Tokenizer Unit := do
  dropCandidate
  if !(← inFlow) then fail
  modify fun stream => { stream with depth := stream.depth - 1 }
  allowKey false
  mark token

/-- A comma. -/
def flowEntry : Tokenizer Unit := do
  allowKey true
  dropCandidate
  mark .flowEntry

/-- The mark of an item. -/
def blockEntry : Tokenizer Unit := do
  startBlock .blockSequenceStart
  allowKey true
  dropCandidate
  mark .blockEntry

/-- The mark of a key. -/
def key : Tokenizer Unit := do
  startBlock .blockMappingStart
  allowKey (!(← inFlow))
  dropCandidate
  mark .key

/-- The mark of a value, which may turn a candidate into a key. -/
def value : Tokenizer Unit := do
  let stream ← get
  match stream.candidates.find? (·.1 = stream.depth) with
  | some (_, candidate) => do
    set { stream with candidates := stream.candidates.filter (·.1 ≠ stream.depth) }
    emitAt candidate.position .key
    if !(← inFlow) then
      if ← indentTo candidate.column then emitAt candidate.position .blockMappingStart
    allowKey false
  | none => do
    startBlock .blockMappingStart
    allowKey (!(← inFlow))
    dropCandidate
  mark .value

/-- A token of its own that may start a key. -/
def possibleKey (reading : Scan Token) : Tokenizer Unit := do
  saveCandidate
  allowKey false
  let token ← scan reading
  emit token

/-- A block scalar. -/
def blockScalar (folded : Bool) : Tokenizer Unit := do
  allowKey true
  dropCandidate
  let indent := (← get).indent
  let text ← scan (Scan.block folded indent)
  emit (.scalar false text)

/-- A plain scalar; a key may start after it if a line ended. -/
def plain : Tokenizer Unit := do
  saveCandidate
  let stream ← get
  let (text, broken) ← scan (Scan.plain (stream.depth ≠ 0) stream.indent)
  allowKey broken
  emit (.scalar true text)

/-- Whether a plain scalar may start with a character that has another after it. -/
def startsPlain (inFlow : Bool) (c : Char) (second : Option Char) : Bool :=
  (!endsWord (some c) && !"-?:,[]\x7b\x7d#&*!|>'\"%@\x60".toList.contains c) ||
  (!endsWord second && (c = '-' || (!inFlow && (c = '?' || c = ':'))))

/-- The token that starts with a character. -/
def tokenAt (c : Char) : Tokenizer Unit := do
  let stream ← get
  let cursor := stream.cursor
  let flow := stream.depth ≠ 0
  let second := cursor.second?
  if c = '%' && cursor.column = 0 then directive
  else if cursor.column = 0 && cursor.atMark '-' then documentMark .documentStart
  else if cursor.column = 0 && cursor.atMark '.' then documentMark .documentEnd
  else if c = '[' then flowStart .flowSequenceStart
  else if c = '\x7b' then flowStart .flowMappingStart
  else if c = ']' then flowEnd .flowSequenceEnd
  else if c = '\x7d' then flowEnd .flowMappingEnd
  else if c = ',' then flowEntry
  else if c = '-' && endsWord second then blockEntry
  else if c = '?' && (flow || endsWord second) then key
  else if c = ':' && (flow || endsWord second) then value
  else if c = '*' then possibleKey (Token.alias <$> Scan.reference)
  else if c = '&' then possibleKey (Token.anchor <$> Scan.reference)
  else if c = '!' then possibleKey (Token.tag <$> Scan.tag)
  else if c = '|' && !flow then blockScalar false
  else if c = '>' && !flow then blockScalar true
  else if c = '\'' then possibleKey (Token.scalar false <$> Scan.quoted false)
  else if c = '"' then possibleKey (Token.scalar false <$> Scan.quoted true)
  else if startsPlain flow c second then plain
  else fail

/-- The next token with what it makes explicit; false at the end of the text. -/
def next : Tokenizer Bool := do
  let cursor := (← get).cursor
  if cursor.index = 0 && cursor.head? = some byteOrderMark then scan (Scan.skip 1)
  let broken ← scan (Scan.gap (cursor.rest.length + 1))
  if broken && !(← inFlow) then allowKey true
  dropStale
  unwind (← get).cursor.column
  match (← get).cursor.head? with
  | none => do
    unwind (-1)
    dropCandidate
    pure false
  | some c => do
    tokenAt c
    pure true

/-- The stream after all tokens, or up to a fault. Each token needs at least one character, so the
count of characters bounds them. -/
def all (stream : TokenStream) : Nat → TokenStream × Option Fault
  | 0 => (stream, none)
  | fuel + 1 => match next.run stream with
    | .ok (true, stream) => all stream fuel
    | .ok (false, stream) => (stream, none)
    | .error fault => (stream, some fault)

end Tokenizer

/-- Whether a character may stand in a text. -/
def isTextChar (c : Char) : Bool :=
  c = '\t' || c = '\n' || c = '\r' || (' ' ≤ c && c ≤ '~') || c = '\x85' ||
    ('\xa0' ≤ c && c ≤ '\uFFFD') || '\uFFFF' < c

/-- The tokens that can be told before reading on: those in front of every candidate. -/
def TokenStream.settled (stream : TokenStream) : List Token :=
  let unsettled := stream.candidates.filter fun (_, candidate) =>
    !Tokenizer.isStale stream.cursor candidate
  let count := unsettled.foldl (fun count (_, candidate) => min count candidate.position)
    stream.tokens.size
  (stream.tokens.take count).toList

/-- The tokens of a text. Where a failure of the host ends them, it stands in their place: whoever
does not get so far does not see it. -/
def Token.ofText (text : List Char) : Except Fault (List Token) :=
  if !text.all isTextChar then .error .malformed
  else match Tokenizer.all { cursor := { rest := text } } (text.length + 1) with
    | (stream, none) => .ok stream.tokens.toList
    | (_, some .malformed) => .error .malformed
    | (stream, some (.failed failure)) => .ok (stream.settled ++ [.broken failure])

end Hexwire.Document.Yaml
