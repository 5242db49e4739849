import Hexwire.Document.Yaml.Literal
import Hexwire.Document.Yaml.Node
import Hexwire.Value.Equality

/-! # Values of nodes

A node becomes a value. Scalars are read at once, while the items of a collection are read only
after everything at the level of the collection has been read, level by level from the root. Of
several faults the first in this order counts, so an assembled node holds, besides its value, the
fault of reading it and the first fault of each level below.

A collection that is met again is the one that was assembled before. Inside itself it is met before
it has items, so an empty collection stands there. A mapping takes the entries of the mappings that
it merges: they come before its own entries and give way to them, and of several mappings the
earlier ones win. A mapping that is merged into itself gives the entries that it has left by then.
-/

namespace Hexwire.Document.Yaml

/-- The first fault of each level, the nearest level first. -/
abbrev FaultLevels := List (Option Fault)

/-- The first faults of two sequences of nodes, one read after the other. -/
def FaultLevels.merge : FaultLevels → FaultLevels → FaultLevels
  | [], others => others
  | levels, [] => levels
  | first :: levels, other :: others => first.or other :: merge levels others

/-- An assembled node: its value, the fault of reading it and the faults of the levels below. -/
structure Assembly where
  value : Value
  fault : Option Fault := none
  levels : FaultLevels := []

/-- The keys and values of a mapping. -/
abbrev Entries := List (Node × Node)

namespace Graph

/-- The collection that a node refers to. -/
def deref (graph : Graph) : Node → Node
  | .again number => ((graph.collections.find? (·.1 = number)).map (·.2)).getD (.again number)
  | node => node

/-- Whether a node is of a kind. -/
def isOf (graph : Graph) (tag : Tag) (node : Node) : Bool :=
  match graph.deref node with
  | .scalar other _ => other = tag
  | .sequence _ other _ => other = tag
  | .mapping _ other _ => other = tag
  | .again _ => false

/-- The key of a default value, as the text that it is in a mapping. -/
def plainKey : Node → Node
  | .scalar .value text => .scalar .str text
  | key => key

mutual

/-- The entries of a mapping with the given number, those that it merges in front. The first entries
have been looked at, the others are left. `left` holds the entries that mappings have left while
they are looked at. The count bounds the steps; there are none if a merged node is no mapping. -/
def gather (graph : Graph) : Nat → List (Nat × Entries) → Nat → Entries → Entries → Option Entries
  | 0, _, _, _, _ => none
  | _ + 1, _, _, seen, [] => some seen
  | fuel + 1, left, number, seen, (key, value) :: rest =>
    if graph.isOf .merge key then do
      let added ← graph.merged fuel ((number, seen ++ rest) :: left) value
      let others ← graph.gather fuel left number seen rest
      some (added ++ others)
    else graph.gather fuel left number (seen ++ [(plainKey key, value)]) rest

/-- The entries that a merged node adds: those of a mapping, or those of several mappings, the last
one first. -/
def merged (graph : Graph) : Nat → List (Nat × Entries) → Node → Option Entries
  | 0, _, _ => none
  | fuel + 1, left, node =>
    match graph.deref node with
    | .mapping number _ entries =>
      graph.gather fuel left number [] ((left.lookup number).getD entries)
    | .sequence _ _ items =>
      (items.reverse.mapM fun item => match graph.deref item with
        | .mapping number tag entries => graph.merged fuel left (.mapping number tag entries)
        | _ => none).map List.flatten
    | _ => none

end

/-- The text of a node that is asked for a scalar: its own, or that of the default value of a
mapping. The count bounds the depth. -/
def scalarText? (graph : Graph) : Nat → Node → Option (List Char)
  | 0, _ => none
  | fuel + 1, node => match graph.deref node with
    | .scalar _ text => some text
    | .mapping _ _ entries =>
      (entries.find? fun (key, _) => graph.isOf .value key).bind fun (_, value) =>
        graph.scalarText? fuel value
    | _ => none

end Graph

namespace Assembly

/-- Whether a kind is one of collections, whose items are read a level later. -/
def isCollection : Tag → Bool
  | .seq | .map | .set | .omap | .pairs => true
  | _ => false

/-- What stands for a collection of a kind before its items are read. -/
def emptyOf : Tag → Value
  | .map => .map []
  | .set => .set []
  | _ => .list []

/-- A collection that is found unfit for its kind. -/
def unfit (tag : Tag) : Assembly := ⟨emptyOf tag, none, [some .malformed]⟩

/-- A node that is malformed itself. -/
def malformed : Assembly := ⟨.null, some .malformed, []⟩

/-- A value that reading a scalar gives. -/
def ofRead : Except Fault Value → Assembly
  | .ok value => ⟨value, none, []⟩
  | .error fault => ⟨.null, some fault, []⟩

/-- The faults of reading a sequence of nodes. -/
def readAll (items : List Assembly) : FaultLevels :=
  items.findSome? fault :: (items.map levels).foldl FaultLevels.merge []

/-- The fault of a value that cannot be a key. -/
def keyFault (key : Assembly) : Option Fault :=
  if key.value.isKey then none else some .malformed

/-- The faults of reading the entries of a mapping: each key, whether it can be one, and its
value. -/
def readEntries (entries : List (Assembly × Assembly)) : FaultLevels :=
  (entries.findSome? fun (key, value) => key.fault.or ((keyFault key).or value.fault)) ::
    (entries.map fun (key, value) => key.levels.merge value.levels).foldl FaultLevels.merge []

/-- Whether two keys are the same; what is not a number is the same key as itself. -/
def sameKey (x y : Value) : Bool :=
  match x, y with
  | .float .nan, .float .nan => true
  | x, y => x.equals y

/-- The entries of a mapping of assembled keys and values. -/
def entriesOf (entries : List (Assembly × Assembly)) : List (Value × Value) :=
  entries.foldl (fun found (key, value) => Value.insertBy sameKey found key.value value.value) []

/-- A mapping of a kind with assembled entries. -/
def ofEntries (tag : Tag) (entries : List (Assembly × Assembly)) : Assembly :=
  let found := entriesOf entries
  ⟨if tag = .set then .set (found.map (·.1)) else .map found, none, readEntries entries⟩

/-- The items of an ordered mapping, each a single entry, up to the first that is none, which is a
fault. -/
def ofPairs (pairs : List (Assembly × Assembly)) (isComplete : Bool) : Assembly :=
  let first := pairs.findSome? fun (key, value) => key.fault.or value.fault
  let last := if isComplete then none else some Fault.malformed
  let levels := (pairs.map fun (key, value) => key.levels.merge value.levels).foldl
    FaultLevels.merge []
  ⟨.list (pairs.map fun (key, value) => .tuple [key.value, value.value]), none,
    first.or last :: levels⟩

end Assembly

/-- What has been assembled of collections, under their numbers. -/
abbrev Assembling := StateM (List (Nat × Assembly))

namespace Graph

/-- The single entries of mappings, as the items of an ordered mapping are written, up to the first
item that is none. -/
def pairsOf (graph : Graph) (items : List Node) : Entries :=
  (items.map graph.deref).foldr (fun item others => match item with
    | .mapping _ _ [entry] => entry :: others
    | _ => []) []

/-- What stands for a collection inside itself, if a node is one of the collections around it. -/
def placeholder? (around : List (Nat × Value)) : Node → Option Value
  | .sequence number _ _ => around.lookup number
  | .mapping number _ _ => around.lookup number
  | .again number => around.lookup number
  | .scalar _ _ => none

/-- Assembles a node. `around` holds the collections that it stands in, with what stands for them.
The counts bound the depth and the steps of merging. -/
def assemble (graph : Graph) (steps : Nat) :
    Nat → List (Nat × Value) → Node → Assembling Assembly
  | 0, _, _ => pure Assembly.malformed
  | fuel + 1, around, node => do
    let entriesIn (around : List (Nat × Value)) (entries : Entries) :
        Assembling (List (Assembly × Assembly)) :=
      entries.mapM fun (key, value) => do
        pure (← graph.assemble steps fuel around key, ← graph.assemble steps fuel around value)
    match placeholder? around node, node with
    | some value, _ => pure ⟨value, none, []⟩
    | none, .scalar tag text =>
      pure (if Assembly.isCollection tag then Assembly.unfit tag
        else Assembly.ofRead (Literal.value tag text))
    | none, .sequence number tag items =>
      let inside := (number, Assembly.emptyOf tag) :: around
      match tag with
      | .seq => do
        let items ← items.mapM (graph.assemble steps fuel inside)
        pure ⟨.list (items.map Assembly.value), none, Assembly.readAll items⟩
      | .omap | .pairs => do
        let pairs := graph.pairsOf items
        pure (Assembly.ofPairs (← entriesIn inside pairs) (pairs.length = items.length))
      | .map | .set => pure (Assembly.unfit tag)
      | _ => pure Assembly.malformed
    | none, .mapping number tag entries =>
      let inside := (number, Assembly.emptyOf tag) :: around
      match tag with
      | .map | .set =>
        match graph.gather steps [] number [] entries with
        | none => pure (Assembly.unfit tag)
        | some entries => do pure (Assembly.ofEntries tag (← entriesIn inside entries))
      | .seq | .omap | .pairs => pure (Assembly.unfit tag)
      | .timestamp => pure (match graph.scalarText? steps node with
        | none => Assembly.malformed
        | some _ => Assembly.ofRead
            (Literal.failed .type "expected string or bytes-like object, got 'list'"))
      | tag => pure (match graph.scalarText? steps node with
        | none => Assembly.malformed
        | some text => Assembly.ofRead (Literal.value tag text))
    | none, .again number =>
      match (← get).lookup number with
      | some assembly => pure assembly
      | none => do
        let assembly ← graph.assemble steps fuel around (graph.deref node)
        modify ((number, assembly) :: ·)
        pure assembly

/-- The assembly of a document of a count of tokens, which bounds its nodes. -/
def assembly (graph : Graph) (count : Nat) : Assembly :=
  ((graph.assemble (Nat.pow (count + 2) 2) (2 * count + 2) [] graph.root).run []).1

end Graph

/-- The value of a text; a text without a document has the value of nothing. -/
def parse (text : List Char) : Except Fault Value := do
  let tokens ← Token.ofText text
  match ← Graph.ofTokens tokens with
  | none => pure .null
  | some graph =>
    let assembly := graph.assembly tokens.length
    match assembly.fault.or (assembly.levels.findSome? id) with
    | some fault => throw fault
    | none => pure assembly.value

end Hexwire.Document.Yaml
