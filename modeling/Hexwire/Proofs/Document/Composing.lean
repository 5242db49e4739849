import Hexwire.Document.Yaml.Node
import Hexwire.Proofs.Document.Scanning

/-! # What reading nodes fails with

Nodes are read from tokens. Reading them fails for good only where it meets the token that stands
for a failure (`Hexwire.Document.Yaml.Graph.explained_ofTokens`).
-/

namespace Hexwire.Document.Yaml

/-- Every token that is left is explained. -/
def Composer.Explained (composer : Composer) : Prop := ∀ token ∈ composer.tokens, token.Explained

namespace Composing

/-- Reading of nodes explains its faults and leaves explained tokens. -/
abbrev Sound {α : Type} (reading : Composing α) : Prop := Explains Composer.Explained reading

theorem sound_fail {α : Type} : Sound (fail : Composing α) := .throw trivial

theorem sound_peek : Sound peek := by
  refine .get_bind fun composer before => ?_
  cases next : composer.tokens.head? with
  | none => exact .pure _
  | some token =>
      have explained := before token (List.mem_of_mem_head? next)
      cases token with
      | broken failure => exact .throw explained
      | _ => exact .pure _

theorem sound_advance : Sound advance :=
  .rewrite fun _ before token member => before token (List.mem_of_mem_drop member)

theorem sound_resolve (written : WrittenTag) : Sound (resolve written) := by
  unfold resolve
  cases written.handle with
  | none => exact .pure _
  | some handle =>
      refine .bind .get fun _ => ?_
      split
      · exact .pure _
      · exact sound_fail

theorem sound_properties : Sound properties := by
  unfold properties
  extract_lets tagHere anchorHere finish
  have tagged : Sound tagHere := by
    refine .bind sound_peek fun next => ?_
    split
    · exact .bind sound_advance fun _ => .pure _
    · exact .pure _
  have anchored : Sound anchorHere := by
    refine .bind sound_peek fun next => ?_
    split
    · exact .bind sound_advance fun _ => .pure _
    · exact .pure _
  have finished (found : Option String × Option WrittenTag) : Sound (finish found) := by
    obtain ⟨anchor, written⟩ := found
    cases written with
    | none => exact .pure _
    | some written => exact .bind (sound_resolve _) fun _ => .pure _
  clear_value tagHere anchorHere finish
  refine .bind anchored fun anchor => ?_
  cases anchor with
  | some name => exact .bind tagged fun _ => .bind (.pure _) finished
  | none =>
      refine .bind tagged fun written => ?_
      cases written with
      | some written => exact .bind anchored fun _ => .bind (.pure _) finished
      | none => exact .bind (.pure _) finished

theorem sound_bind (anchor : Option String) (node : Node) : Sound (bind anchor node) := by
  cases anchor with
  | none => exact .pure _
  | some name => exact .rewrite fun _ before => before

theorem sound_requireNew (anchor : Option String) : Sound (requireNew anchor) := by
  cases anchor with
  | none => exact .pure _
  | some name => exact .bind .get fun _ => .ite sound_fail (.pure _)

theorem sound_scalarNode (anchor : Option String) (tag : Tag) (text : List Char) :
    Sound (scalarNode anchor tag text) :=
  .bind (sound_bind _ _) fun _ => .pure _

/-- A collection is composed soundly if what it holds is. -/
theorem sound_collection (anchor : Option String) {compose : Nat → Composing Node}
    (sound : ∀ number, Sound (compose number)) : Sound (collection anchor compose) := by
  refine .bind .get fun composer => .bind (.rewrite fun _ before => before) fun _ =>
    .bind (sound_bind _ _) fun _ => .bind (sound _) fun _ => ?_
  exact .ite (.bind (.rewrite fun _ before => before) fun _ => .pure _) (.pure _)

theorem sound_aliased (name : String) : Sound (aliased name) := by
  refine .bind .get fun _ => ?_
  split
  · exact .pure _
  · exact sound_fail

theorem sound_atValue : Sound atValue := by
  refine .bind sound_peek fun _ => ?_
  split
  · exact .pure _
  · exact .pure _

/-- The parts of a document are read soundly under a bound. -/
structure SoundBelow (fuel : Nat) : Prop where
  node : ∀ block indentless, Sound (node fuel block indentless)
  blockItems : Sound (blockItems fuel)
  indentlessItems : Sound (indentlessItems fuel)
  blockEntries : Sound (blockEntries fuel)
  flowValue : ∀ closing, Sound (flowValue fuel closing)
  flowKey : ∀ closing, Sound (flowKey fuel closing)
  flowItems : ∀ first, Sound (flowItems fuel first)
  flowEntries : ∀ first, Sound (flowEntries fuel first)

namespace SoundBelow

variable {fuel : Nat}

/-- Without fuel nothing is composed. -/
theorem zero : SoundBelow 0 where
  node _ _ := sound_fail
  blockItems := sound_fail
  indentlessItems := sound_fail
  blockEntries := sound_fail
  flowValue _ := sound_fail
  flowKey _ := sound_fail
  flowItems _ := sound_fail
  flowEntries _ := sound_fail

/-- A node is composed soundly if everything with less fuel is. -/
theorem node_succ (below : SoundBelow fuel) (block indentless : Bool) :
    Sound (Composing.node (fuel + 1) block indentless) := by
  have sequence (anchor tag : Option String) {items : Composing (List Node)}
      (sound : Sound items) :
      Sound (collection anchor fun number =>
        .sequence number (collectionTag .seq tag) <$> items) :=
    sound_collection _ fun _ => .map _ sound
  have mapping (anchor tag : Option String) {entries : Composing (List (Node × Node))}
      (sound : Sound entries) :
      Sound (collection anchor fun number =>
        .mapping number (collectionTag .map tag) <$> entries) :=
    sound_collection _ fun _ => .map _ sound
  unfold Composing.node
  refine .bind sound_peek fun next => ?_
  split
  · exact .bind sound_advance fun _ => sound_aliased _
  · refine .bind sound_properties fun found => ?_
    obtain ⟨anchor, tag⟩ := found
    dsimp only
    refine .bind sound_peek fun next => .bind (sound_requireNew _) fun _ => ?_
    split
    · exact sequence _ _ below.indentlessItems
    · exact .bind sound_advance fun _ => sound_scalarNode _ _ _
    · exact .bind sound_advance fun _ => sequence _ _ (below.flowItems _)
    · exact .bind sound_advance fun _ => mapping _ _ (below.flowEntries _)
    · exact .bind sound_advance fun _ => sequence _ _ below.blockItems
    · exact .bind sound_advance fun _ => mapping _ _ below.blockEntries
    · exact .ite sound_fail (sound_scalarNode _ _ _)

theorem blockItems_succ (below : SoundBelow fuel) : Sound (Composing.blockItems (fuel + 1)) := by
  unfold Composing.blockItems
  refine .bind sound_peek fun next => ?_
  split
  · exact .bind sound_advance fun _ => .pure _
  · refine .bind sound_advance fun _ => .bind sound_peek fun _ => ?_
    extract_lets others
    have rest (first : Node) : Sound (others first) := .bind below.blockItems fun _ => .pure _
    clear_value others
    exact .ite (.bind (.pure _) rest) (.bind (below.node _ _) rest)
  · exact sound_fail

theorem indentlessItems_succ (below : SoundBelow fuel) :
    Sound (Composing.indentlessItems (fuel + 1)) := by
  unfold Composing.indentlessItems
  refine .bind sound_peek fun next => ?_
  split
  · refine .bind sound_advance fun _ => .bind sound_peek fun _ => ?_
    extract_lets others
    have rest (first : Node) : Sound (others first) :=
      .bind below.indentlessItems fun _ => .pure _
    clear_value others
    exact .ite (.bind (.pure _) rest) (.bind (below.node _ _) rest)
  · exact .pure _

theorem blockEntries_succ (below : SoundBelow fuel) :
    Sound (Composing.blockEntries (fuel + 1)) := by
  unfold Composing.blockEntries
  refine .bind sound_peek fun next => ?_
  split
  · exact .bind sound_advance fun _ => .pure _
  · refine .bind sound_advance fun _ => .bind sound_peek fun _ => ?_
    extract_lets value
    have valued (key : Node) : Sound (value key) := by
      refine .bind sound_atValue fun _ => ?_
      extract_lets others
      have rest (value : Node) : Sound (others value) :=
        .bind below.blockEntries fun _ => .pure _
      clear_value others
      refine .ite (.bind sound_advance fun _ => .bind sound_peek fun _ => ?_)
        (.bind (.pure _) rest)
      exact .ite (.bind (.pure _) rest) (.bind (below.node _ _) rest)
    clear_value value
    exact .ite (.bind (.pure _) valued) (.bind (below.node _ _) valued)
  · exact sound_fail

theorem flowValue_succ (below : SoundBelow fuel) (closing : Token → Bool) :
    Sound (Composing.flowValue (fuel + 1) closing) := by
  unfold Composing.flowValue
  exact .bind sound_atValue fun _ => .ite (.bind sound_advance fun _ =>
    .bind sound_peek fun _ => .ite (.pure _) (below.node _ _)) (.pure _)

theorem flowKey_succ (below : SoundBelow fuel) (closing : Token → Bool) :
    Sound (Composing.flowKey (fuel + 1) closing) := by
  unfold Composing.flowKey
  exact .bind sound_peek fun _ => .bind sound_atValue fun _ => .ite (.pure _) (below.node _ _)

theorem flowItems_succ (below : SoundBelow fuel) (first : Bool) :
    Sound (Composing.flowItems (fuel + 1) first) := by
  unfold Composing.flowItems
  refine .bind sound_peek fun next => ?_
  split
  · exact .bind sound_advance fun _ => .pure _
  · extract_lets item
    have sound (begun : PUnit) : Sound (item begun) := by
      refine .bind sound_peek fun next => ?_
      split
      · exact .bind sound_advance fun _ => .pure _
      · exact .bind sound_advance fun _ => .bind (below.flowKey _) fun _ =>
          .bind (below.flowValue _) fun _ => .bind (sound_collection _ fun _ => .pure _) fun _ =>
            .bind (below.flowItems _) fun _ => .pure _
      · exact .bind (below.node _ _) fun _ => .bind (below.flowItems _) fun _ => .pure _
    clear_value item
    refine .ite ?_ (sound _)
    split
    · exact .bind sound_advance sound
    · exact .bind sound_fail sound

theorem flowEntries_succ (below : SoundBelow fuel) (first : Bool) :
    Sound (Composing.flowEntries (fuel + 1) first) := by
  unfold Composing.flowEntries
  refine .bind sound_peek fun next => ?_
  split
  · exact .bind sound_advance fun _ => .pure _
  · extract_lets entry
    have sound (begun : PUnit) : Sound (entry begun) := by
      refine .bind sound_peek fun next => ?_
      split
      · exact .bind sound_advance fun _ => .pure _
      · exact .bind sound_advance fun _ => .bind (below.flowKey _) fun _ =>
          .bind (below.flowValue _) fun _ => .bind (below.flowEntries _) fun _ => .pure _
      · exact .bind (below.node _ _) fun _ => .bind (below.flowEntries _) fun _ => .pure _
    clear_value entry
    refine .ite ?_ (sound _)
    split
    · exact .bind sound_advance sound
    · exact .bind sound_fail sound

/-- One step more of fuel adds no faults of other kinds. -/
theorem succ (below : SoundBelow fuel) : SoundBelow (fuel + 1) where
  node := below.node_succ
  blockItems := below.blockItems_succ
  indentlessItems := below.indentlessItems_succ
  blockEntries := below.blockEntries_succ
  flowValue := below.flowValue_succ
  flowKey := below.flowKey_succ
  flowItems := below.flowItems_succ
  flowEntries := below.flowEntries_succ

/-- Every part of a document is read soundly; the induction is on the bound of all parts at once. -/
theorem all (fuel : Nat) : SoundBelow fuel := by
  induction fuel with
  | zero => exact zero
  | succ fuel ih => exact ih.succ

end SoundBelow

/-- Directives are read soundly, however many there are. -/
theorem sound_directivesFrom (fuel : Nat) : ∀ versioned, Sound (directivesFrom versioned fuel) := by
  induction fuel with
  | zero => exact fun _ => .pure _
  | succ fuel ih =>
      intro versioned
      refine .bind sound_peek fun next => ?_
      split
      · exact .bind sound_advance fun _ => .ite sound_fail (ih _)
      · exact .bind sound_advance fun _ => .get_bind fun _ before =>
          .ite sound_fail (.bind (.set before) fun _ => ih _)
      · exact .bind sound_advance fun _ => ih _
      · exact .pure _

theorem sound_documentStart (fuel : Nat) : Sound (documentStart fuel) := by
  refine .bind (.rewrite fun _ before => before) fun _ => .bind (sound_directivesFrom _ _) fun _ =>
    .bind (.rewrite fun _ before => before) fun _ => .bind sound_peek fun next => ?_
  split
  · exact sound_advance
  · exact sound_fail

theorem sound_documentEnds (fuel : Nat) : Sound (documentEnds fuel) := by
  induction fuel with
  | zero => exact .pure _
  | succ fuel ih =>
      refine .bind sound_peek fun next => ?_
      split
      · exact .bind sound_advance fun _ => ih
      · exact .pure _

/-- A whole document is composed soundly. -/
theorem sound_document (fuel : Nat) : Sound (document fuel) := by
  have below := SoundBelow.all fuel
  unfold document
  refine .bind sound_peek fun first => .ite (.pure _) ?_
  extract_lets finish
  have ends (root : Node) : Sound (finish root) := by
    refine .bind (sound_documentEnds _) fun _ => .bind sound_peek fun next => ?_
    cases next with
    | none => exact .pure _
    | some _ => exact .bind (sound_documentStart _) fun _ => sound_fail
  clear_value finish
  refine .ite (.bind (sound_documentStart _) fun _ => .bind sound_peek fun _ => ?_) ?_
  · exact .ite (.bind (.pure _) ends) (.bind (below.node _ _) ends)
  · exact .bind (.rewrite fun _ before => before) fun _ => .bind (below.node _ _) ends

end Composing

/-- **Reading nodes of explained tokens** has explained faults. -/
theorem Graph.explained_ofTokens {tokens : List Token}
    (explained : ∀ token ∈ tokens, token.Explained) {fault : Fault}
    (failed : Graph.ofTokens tokens = .error fault) : fault.Explained := by
  have read := Composing.sound_document (4 * tokens.length + 8) { tokens := tokens } explained
  unfold Graph.ofTokens at failed
  split at failed
  · cases failed
    rename_i ran
    rw [ran] at read
    exact read
  · cases failed

end Hexwire.Document.Yaml
