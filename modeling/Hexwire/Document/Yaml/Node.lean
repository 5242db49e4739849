import Hexwire.Document.Yaml.Tag
import Hexwire.Document.Yaml.Token

/-! # Nodes of YAML

A text holds at most one document, and a document is one node: a scalar, a sequence or a mapping,
each of some kind. An anchor names the node that follows it, once in a document, and an alias stands
for the node with its name. Collections have numbers, and an alias of a collection refers to it by
its number, so that a collection can stand inside itself.
-/

namespace Hexwire.Document.Yaml

/-- A node. -/
inductive Node where
  | scalar (tag : Tag) (text : List Char)
  | sequence (number : Nat) (tag : Tag) (items : List Node)
  | mapping (number : Nat) (tag : Tag) (entries : List (Node × Node))
  /-- The collection with a number once more. -/
  | again (number : Nat)

/-- A scalar without text. -/
def Node.nothing : Node := .scalar (Tag.ofPlain []) []

/-- A document: its root and the collections with anchors under their numbers. -/
structure Graph where
  root : Node
  collections : List (Nat × Node)

/-- The state of reading nodes: the tokens that are left, what aliases stand for, the collections
with anchors that are complete, the count of collections, and what handles of tags stand for. -/
structure Composer where
  tokens : List Token
  anchored : List (String × Node) := []
  collections : List (Nat × Node) := []
  count : Nat := 0
  handles : List (String × String) := []

/-- Reading of nodes. -/
abbrev Composing := StateT Composer (Except Fault)

namespace Composing

/-- Fails because the text is malformed. -/
def fail {α : Type} : Composing α := throw .malformed

/-- The next token. -/
def peek : Composing (Option Token) := do
  match (← get).tokens.head? with
  | some (.broken failure) => throw (.failed failure)
  | next => pure next

/-- Moves over the next token. -/
def advance : Composing Unit :=
  modify fun composer => { composer with tokens := composer.tokens.drop 1 }

/-- The handles that need no directive. -/
def standardHandles : List (String × String) := [("!", "!"), ("!!", standardStem)]

/-- A tag in full. -/
def resolve (written : WrittenTag) : Composing String := do
  match written.handle with
  | none => pure written.suffix
  | some handle => match (← get).handles.find? (·.1 = handle) with
    | some (_, stem) => pure (stem ++ written.suffix)
    | none => fail

/-- The anchor and the tag before a node, in either order. -/
def properties : Composing (Option String × Option String) := do
  let tagHere : Composing (Option WrittenTag) := do
    match ← peek with
    | some (.tag written) => do
      advance
      pure (some written)
    | _ => pure none
  let anchorHere : Composing (Option String) := do
    match ← peek with
    | some (.anchor name) => do
      advance
      pure (some name)
    | _ => pure none
  let (anchor, written) ← match ← anchorHere with
    | some name => pure (some name, ← tagHere)
    | none => match ← tagHere with
      | some written => pure (← anchorHere, some written)
      | none => pure (none, none)
  match written with
  | some written => pure (anchor, some (← resolve written))
  | none => pure (anchor, none)

/-- The kind of a collection with a tag, if the tag leaves it open. -/
def collectionTag (standard : Tag) : Option String → Tag
  | some tag => if tag = "!" then standard else Tag.ofUri tag
  | none => standard

/-- The kind of a scalar with a tag. -/
def scalarTag (plain : Bool) (text : List Char) : Option String → Tag
  | some tag => if tag = "!" then Tag.ofPlain text else Tag.ofUri tag
  | none => if plain then Tag.ofPlain text else .str

/-- Lets a name stand for a node from here on. -/
def bind (anchor : Option String) (node : Node) : Composing Unit := do
  if let some name := anchor then
    modify fun composer => { composer with anchored := (name, node) :: composer.anchored }

/-- Fails if an anchor is not a new one. -/
def requireNew : Option String → Composing Unit
  | none => pure ()
  | some name => do
    if (← get).anchored.any (·.1 = name) then fail

/-- A scalar with an anchor. -/
def scalarNode (anchor : Option String) (tag : Tag) (text : List Char) : Composing Node := do
  let node := Node.scalar tag text
  bind anchor node
  pure node

/-- A collection with an anchor, which can stand inside itself. -/
def collection (anchor : Option String) (compose : Nat → Composing Node) : Composing Node := do
  let number := (← get).count
  modify fun composer => { composer with count := number + 1 }
  bind anchor (.again number)
  let node ← compose number
  if anchor.isSome then
    modify fun composer =>
      { composer with collections := (number, node) :: composer.collections }
  pure node

/-- The node that an alias stands for. -/
def aliased (name : String) : Composing Node := do
  match (← get).anchored.find? (·.1 = name) with
  | some (_, node) => pure node
  | none => fail

/-- Whether a token ends an item of a block. -/
def endsBlockItem : Option Token → Bool
  | some .blockEntry => true
  | some .blockEnd => true
  | _ => false

/-- Whether a token ends a key or value of a block. -/
def endsBlockField : Option Token → Bool
  | some .key => true
  | some .value => true
  | some .blockEnd => true
  | _ => false

/-- Whether a token ends an item without indentation of its own. -/
def endsIndentless (token : Option Token) : Bool :=
  endsBlockItem token || endsBlockField token

/-- Whether a token ends a key or value between brackets. -/
def endsFlowField (closing : Token → Bool) : Option Token → Bool
  | some .flowEntry => true
  | some token => closing token
  | none => false

/-- Whether a token is a closing square bracket. -/
def isSequenceEnd : Token → Bool
  | .flowSequenceEnd => true
  | _ => false

/-- Whether a token is a closing brace. -/
def isMappingEnd : Token → Bool
  | .flowMappingEnd => true
  | _ => false

/-- Whether the next token is the mark of a value. -/
def atValue : Composing Bool := do
  match ← peek with
  | some .value => pure true
  | _ => pure false

mutual

/-- A node. In a block it may be a block, and where `indentless` is set also items without an
indentation of their own. The count bounds the depth and the number of items. -/
def node : Nat → Bool → Bool → Composing Node
  | 0, _, _ => fail
  | fuel + 1, block, indentless => do
    match ← peek with
    | some (.alias name) => do
      advance
      aliased name
    | _ => do
      let (anchor, tag) ← properties
      let sequence (items : Composing (List Node)) : Composing Node :=
        collection anchor fun number => .sequence number (collectionTag .seq tag) <$> items
      let mapping (entries : Composing (List (Node × Node))) : Composing Node :=
        collection anchor fun number => .mapping number (collectionTag .map tag) <$> entries
      let next ← peek
      requireNew anchor
      match next, block, indentless with
      | some .blockEntry, _, true => sequence (indentlessItems fuel)
      | some (.scalar plain text), _, _ => do
        advance
        scalarNode anchor (scalarTag plain text tag) text
      | some .flowSequenceStart, _, _ => do
        advance
        sequence (flowItems fuel true)
      | some .flowMappingStart, _, _ => do
        advance
        mapping (flowEntries fuel true)
      | some .blockSequenceStart, true, _ => do
        advance
        sequence (blockItems fuel)
      | some .blockMappingStart, true, _ => do
        advance
        mapping (blockEntries fuel)
      | _, _, _ =>
        if anchor.isNone && tag.isNone then fail
        else scalarNode anchor (scalarTag true [] tag) []

/-- The items of a block up to its end. -/
def blockItems : Nat → Composing (List Node)
  | 0 => fail
  | fuel + 1 => do
    match ← peek with
    | some .blockEnd => do
      advance
      pure []
    | some .blockEntry => do
      advance
      let first ← if endsBlockItem (← peek) then pure .nothing else node fuel true false
      let others ← blockItems fuel
      pure (first :: others)
    | _ => fail

/-- Items without an indentation of their own. -/
def indentlessItems : Nat → Composing (List Node)
  | 0 => fail
  | fuel + 1 => do
    match ← peek with
    | some .blockEntry => do
      advance
      let first ← if endsIndentless (← peek) then pure .nothing else node fuel true false
      let others ← indentlessItems fuel
      pure (first :: others)
    | _ => pure []

/-- The entries of a block up to its end. -/
def blockEntries : Nat → Composing (List (Node × Node))
  | 0 => fail
  | fuel + 1 => do
    match ← peek with
    | some .blockEnd => do
      advance
      pure []
    | some .key => do
      advance
      let key ← if endsBlockField (← peek) then pure .nothing else node fuel true true
      let value ← if ← atValue then do
          advance
          if endsBlockField (← peek) then pure .nothing else node fuel true true
        else pure .nothing
      let others ← blockEntries fuel
      pure ((key, value) :: others)
    | _ => fail

/-- The value between brackets after a key, if there is one. -/
def flowValue : Nat → (Token → Bool) → Composing Node
  | 0, _ => fail
  | fuel + 1, closing => do
    if ← atValue then
      advance
      if endsFlowField closing (← peek) then pure .nothing else node fuel false false
    else pure .nothing

/-- A key between brackets, which may be left out. -/
def flowKey : Nat → (Token → Bool) → Composing Node
  | 0, _ => fail
  | fuel + 1, closing => do
    let next ← peek
    if (← atValue) || endsFlowField closing next then pure .nothing else node fuel false false

/-- The items of a sequence between brackets up to its end; all but the first have a comma before
them. -/
def flowItems : Nat → Bool → Composing (List Node)
  | 0, _ => fail
  | fuel + 1, first => do
    match ← peek with
    | some .flowSequenceEnd => do
      advance
      pure []
    | next => do
      if !first then
        match next with
        | some .flowEntry => advance
        | _ => fail
      match ← peek with
      | some .flowSequenceEnd => do
        advance
        pure []
      | some .key => do
        advance
        let key ← flowKey fuel isSequenceEnd
        let value ← flowValue fuel isSequenceEnd
        let single ← collection none fun number =>
          pure (.mapping number .map [(key, value)])
        let others ← flowItems fuel false
        pure (single :: others)
      | _ => do
        let item ← node fuel false false
        let others ← flowItems fuel false
        pure (item :: others)

/-- The entries of a mapping between braces up to its end; all but the first have a comma before
them. An entry without a mark of a key has no value. -/
def flowEntries : Nat → Bool → Composing (List (Node × Node))
  | 0, _ => fail
  | fuel + 1, first => do
    match ← peek with
    | some .flowMappingEnd => do
      advance
      pure []
    | next => do
      if !first then
        match next with
        | some .flowEntry => advance
        | _ => fail
      match ← peek with
      | some .flowMappingEnd => do
        advance
        pure []
      | some .key => do
        advance
        let key ← flowKey fuel isMappingEnd
        let value ← flowValue fuel isMappingEnd
        let others ← flowEntries fuel false
        pure ((key, value) :: others)
      | _ => do
        let key ← node fuel false false
        let others ← flowEntries fuel false
        pure ((key, .nothing) :: others)

end

/-- The directives before a document, each at most once for a handle or the version, which must be
of the first edition. The flag tells whether there was a version. -/
def directivesFrom (versioned : Bool) : Nat → Composing Unit
  | 0 => pure ()
  | fuel + 1 => do
    match ← peek with
    | some (.directive (.version major _)) => do
      advance
      if versioned || major ≠ 1 then fail else directivesFrom true fuel
    | some (.directive (.handle name stem)) => do
      advance
      let composer ← get
      if composer.handles.any (·.1 = name) then fail
      else
        set { composer with handles := (name, stem) :: composer.handles }
        directivesFrom versioned fuel
    | some (.directive .other) => do
      advance
      directivesFrom versioned fuel
    | _ => pure ()

/-- The directives and the mark before a document. Handles without a directive have their standard
meaning. -/
def documentStart (fuel : Nat) : Composing Unit := do
  modify fun composer => { composer with handles := [] }
  directivesFrom false fuel
  modify fun composer => { composer with handles := composer.handles ++ standardHandles }
  match ← peek with
  | some .documentStart => advance
  | _ => fail

/-- Moves over the marks that end documents. -/
def documentEnds : Nat → Composing Unit
  | 0 => pure ()
  | fuel + 1 => do
    match ← peek with
    | some .documentEnd => do
      advance
      documentEnds fuel
    | _ => pure ()

/-- Whether a token cannot start the node of a document that has a mark at its start. -/
def endsDocument : Option Token → Bool
  | none => true
  | some (.directive _) => true
  | some .documentStart => true
  | some .documentEnd => true
  | _ => false

/-- Whether a token starts a document before its node. -/
def startsDocument : Option Token → Bool
  | some (.directive _) => true
  | some .documentStart => true
  | _ => false

/-- The document of a text, if there is one; there must not be more. -/
def document (fuel : Nat) : Composing (Option Node) := do
  let first ← peek
  if first.isNone then pure none
  else
    let root ←
      if startsDocument first then
        documentStart fuel
        if endsDocument (← peek) then pure .nothing else node fuel true false
      else
        modify fun composer => { composer with handles := standardHandles }
        node fuel true false
    documentEnds fuel
    match ← peek with
    | none => pure (some root)
    | some _ => do
      documentStart fuel
      fail

end Composing

/-- The document that tokens make up, if there is one. -/
def Graph.ofTokens (tokens : List Token) : Except Fault (Option Graph) :=
  match (Composing.document (4 * tokens.length + 8)).run { tokens := tokens } with
  | .error fault => .error fault
  | .ok (root?, composer) => .ok (root?.map fun root => ⟨root, composer.collections⟩)

end Hexwire.Document.Yaml
