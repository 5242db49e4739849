import Hexwire.Document.Yaml.Assembly
import Hexwire.Proofs.Document.Composing

/-! # What nodes fail to become

The faults of a document are collected while its nodes are assembled. Every one of them is that of a
scalar, of a mapping where a moment is asked for, or malformed
(`Hexwire.Document.Yaml.Graph.explained_assembly`).
-/

namespace Hexwire.Document.Yaml

/-- Every fault of every level is explained. -/
def FaultLevels.Explained (levels : FaultLevels) : Prop :=
  ∀ level ∈ levels, ∀ fault ∈ level, fault.Explained

namespace FaultLevels

variable {levels others : FaultLevels}

/-- The first of two faults is explained if both are. -/
theorem explained_or {first second : Option Fault} (left : ∀ fault ∈ first, fault.Explained)
    (right : ∀ fault ∈ second, fault.Explained) : ∀ fault ∈ first.or second, fault.Explained := by
  cases first with
  | none => exact right
  | some _ => exact left

/-- Another level of explained faults may go on top. -/
theorem Explained.cons {level : Option Fault} (first : ∀ fault ∈ level, fault.Explained)
    (explained : levels.Explained) : Explained (level :: levels) := by
  intro other member
  rcases List.mem_cons.mp member with rfl | member
  · exact first
  · exact explained other member

/-- Levels that are merged hold faults of either. -/
theorem Explained.merge (left : levels.Explained) (right : others.Explained) :
    (levels.merge others).Explained := by
  induction levels generalizing others with
  | nil => exact right
  | cons first levels ih =>
      cases others with
      | nil => exact left
      | cons second others =>
          have rest := ih (fun level member => left level (List.mem_cons_of_mem _ member))
            (fun level member => right level (List.mem_cons_of_mem _ member))
          exact rest.cons (explained_or (left first List.mem_cons_self)
            (right second List.mem_cons_self))

/-- Merging any number of levels brings no other faults in. -/
theorem explained_foldl {all : List FaultLevels} (explained : ∀ levels ∈ all, levels.Explained)
    {start : FaultLevels} (before : start.Explained) :
    (all.foldl FaultLevels.merge start).Explained := by
  induction all generalizing start with
  | nil => exact before
  | cons first all ih =>
      exact ih (fun levels member => explained levels (List.mem_cons_of_mem _ member))
        (before.merge (explained first List.mem_cons_self))

end FaultLevels

/-- A node has been assembled with explained faults only. -/
structure Assembly.Explained (assembly : Assembly) : Prop where
  fault : ∀ fault ∈ assembly.fault, fault.Explained
  levels : assembly.levels.Explained

namespace Assembly

/-- A value without a fault. -/
theorem explained_value (value : Value) : Explained ⟨value, none, []⟩ :=
  ⟨by rintro _ ⟨⟩, by rintro _ ⟨⟩⟩

/-- A malformed assembly needs no explanation. -/
theorem explained_malformed : malformed.Explained :=
  ⟨by rintro _ ⟨⟩; trivial, by rintro _ ⟨⟩⟩

/-- What does not fit its tag is explained by it. -/
theorem explained_unfit (tag : Tag) : (unfit tag).Explained := by
  refine ⟨by rintro _ ⟨⟩, ?_⟩
  intro level member fault present
  cases List.mem_singleton.mp member
  cases present
  trivial

/-- An assembly of something that is read has the fault of the reading. -/
theorem explained_ofRead {read : Except Fault Value}
    (explained : ∀ fault, read = .error fault → fault.Explained) : (ofRead read).Explained := by
  cases read with
  | ok value => exact explained_value value
  | error fault =>
      refine ⟨?_, by rintro _ ⟨⟩⟩
      rintro _ ⟨⟩
      exact explained fault rfl

/-- A scalar fails with what its text has against its kind. -/
theorem explained_scalar (tag : Tag) (text : List Char) :
    (ofRead (Literal.value tag text)).Explained := by
  refine explained_ofRead fun fault failed => ?_
  cases fault with
  | malformed => trivial
  | failed failure => exact .scalar failed

theorem explained_findSome? {α : Type} {items : List α} {fault? : α → Option Fault}
    (explained : ∀ item ∈ items, ∀ fault ∈ fault? item, fault.Explained) :
    ∀ fault ∈ items.findSome? fault?, fault.Explained := by
  intro fault found
  obtain ⟨item, member, same⟩ := List.exists_of_findSome?_eq_some found
  exact explained item member fault same

/-- Reading all items has the faults of the items only. -/
theorem explained_readAll {items : List Assembly} (explained : ∀ item ∈ items, item.Explained) :
    (readAll items).Explained := by
  refine FaultLevels.Explained.cons
    (explained_findSome? fun item member => (explained item member).fault)
    (FaultLevels.explained_foldl ?_ (by rintro _ ⟨⟩))
  intro levels member
  obtain ⟨item, inside, rfl⟩ := List.mem_map.mp member
  exact (explained item inside).levels

/-- The keys and values of entries are explained. -/
def ExplainedEntries (entries : List (Assembly × Assembly)) : Prop :=
  ∀ entry ∈ entries, entry.1.Explained ∧ entry.2.Explained

variable {entries : List (Assembly × Assembly)}

/-- The levels of entries are those of their keys and values. -/
theorem ExplainedEntries.levels (explained : ExplainedEntries entries) :
    FaultLevels.Explained ((entries.map fun (key, value) =>
      key.levels.merge value.levels).foldl FaultLevels.merge []) := by
  refine FaultLevels.explained_foldl ?_ (by rintro _ ⟨⟩)
  intro levels member
  obtain ⟨entry, inside, rfl⟩ := List.mem_map.mp member
  exact (explained entry inside).1.levels.merge (explained entry inside).2.levels

/-- A mapping is as explained as its entries. -/
theorem explained_ofEntries (tag : Tag) (explained : ExplainedEntries entries) :
    (ofEntries tag entries).Explained := by
  refine ⟨by rintro _ ⟨⟩, FaultLevels.Explained.cons ?_ explained.levels⟩
  refine explained_findSome? fun entry member => ?_
  have keyed : ∀ fault ∈ keyFault entry.1, fault.Explained := by
    intro fault present
    unfold keyFault at present
    split at present
    · cases present
    · cases present
      trivial
  exact FaultLevels.explained_or (explained entry member).1.fault
    (FaultLevels.explained_or keyed (explained entry member).2.fault)

/-- Pairs are as explained as the entries that they are made of. -/
theorem explained_ofPairs (isComplete : Bool) (explained : ExplainedEntries entries) :
    (ofPairs entries isComplete).Explained := by
  refine ⟨by rintro _ ⟨⟩, FaultLevels.Explained.cons ?_ explained.levels⟩
  refine FaultLevels.explained_or (explained_findSome? fun entry member => ?_) ?_
  · exact FaultLevels.explained_or (explained entry member).1.fault (explained entry member).2.fault
  · intro fault present
    cases isComplete with
    | true => cases present
    | false =>
        cases present
        trivial

end Assembly

/-- Assembling gives what satisfies a condition and adds explained collections only to those that
have been assembled. -/
def Assembles {α : Type} (wanted : α → Prop) (work : Assembling α) : Prop :=
  ∀ done, (∀ entry ∈ done, entry.2.Explained) →
    wanted (work.run done).1 ∧ ∀ entry ∈ (work.run done).2, entry.2.Explained

namespace Assembles

variable {α β : Type} {wanted : α → Prop} {other : β → Prop} {work : Assembling α}
  {next : α → Assembling β}

theorem pure {value : α} (proper : wanted value) :
    Assembles wanted (Pure.pure value : Assembling α) := fun _ before => ⟨proper, before⟩

/-- What assembles with faults that are explained may be continued by what does so too. -/
theorem bind (first : Assembles wanted work)
    (rest : ∀ value, wanted value → Assembles other (next value)) :
    Assembles other (work >>= next) := by
  intro done before
  obtain ⟨proper, after⟩ := first done before
  exact rest _ proper _ after

theorem get_bind {next : List (Nat × Assembly) → Assembling β}
    (rest : ∀ done, (∀ entry ∈ done, entry.2.Explained) → Assembles other (next done)) :
    Assembles other (get >>= next) := fun done before => rest done before done before

/-- What is assembled is remembered. -/
theorem remember (number : Nat) {assembly : Assembly} (explained : assembly.Explained) :
    Assembles (fun _ => True) (modify ((number, assembly) :: ·) : Assembling PUnit) := by
  intro done before
  refine ⟨trivial, ?_⟩
  intro entry member
  rcases List.mem_cons.mp member with rfl | member
  · exact explained
  · exact before entry member

/-- Assembling one item after another keeps what is wanted of each. -/
theorem mapM {items : List β} {each : β → Assembling α}
    (all : ∀ item, Assembles wanted (each item)) :
    Assembles (fun results => ∀ result ∈ results, wanted result) (items.mapM each) := by
  induction items with
  | nil => exact .pure (by rintro _ ⟨⟩)
  | cons item items ih =>
      rw [List.mapM_cons]
      refine .bind (all item) fun first proper => .bind ih fun others rest => .pure ?_
      intro result member
      rcases List.mem_cons.mp member with rfl | member
      · exact proper
      · exact rest result member

end Assembles

namespace Graph

/-- Every node is assembled with explained faults; the induction is on the bound of the depth. -/
theorem explained_assemble (graph : Graph) (steps fuel : Nat) :
    ∀ around node, Assembles Assembly.Explained (graph.assemble steps fuel around node) := by
  induction fuel with
  | zero => exact fun _ _ => .pure Assembly.explained_malformed
  | succ fuel ih =>
      intro around node
      unfold assemble
      extract_lets entriesIn
      have read (around : List (Nat × Value)) (entries : Entries) :
          Assembles Assembly.ExplainedEntries (entriesIn around entries) :=
        .mapM fun entry => .bind (ih _ _) fun key keyed => .bind (ih _ _) fun value valued =>
          .pure ⟨keyed, valued⟩
      clear_value entriesIn
      split
      · exact .pure (Assembly.explained_value _)
      · refine .pure ?_
        split
        · exact Assembly.explained_unfit _
        · exact Assembly.explained_scalar _ _
      · split
        · exact .bind (.mapM fun item => ih _ item) fun _ kept =>
            .pure ⟨by rintro _ ⟨⟩, Assembly.explained_readAll kept⟩
        · exact .bind (read _ _) fun _ kept => .pure (Assembly.explained_ofPairs _ kept)
        · exact .bind (read _ _) fun _ kept => .pure (Assembly.explained_ofPairs _ kept)
        · exact .pure (Assembly.explained_unfit _)
        · exact .pure (Assembly.explained_unfit _)
        · exact .pure Assembly.explained_malformed
      · split
        · split
          · exact .pure (Assembly.explained_unfit _)
          · exact .bind (read _ _) fun _ kept => .pure (Assembly.explained_ofEntries _ kept)
        · split
          · exact .pure (Assembly.explained_unfit _)
          · exact .bind (read _ _) fun _ kept => .pure (Assembly.explained_ofEntries _ kept)
        · exact .pure (Assembly.explained_unfit _)
        · exact .pure (Assembly.explained_unfit _)
        · exact .pure (Assembly.explained_unfit _)
        · refine .pure ?_
          split
          · exact Assembly.explained_malformed
          · refine Assembly.explained_ofRead fun fault failed => ?_
            cases failed
            exact .mapping
        · refine .pure ?_
          split
          · exact Assembly.explained_malformed
          · exact Assembly.explained_scalar _ _
      · refine .get_bind fun done before => ?_
        cases found : done.lookup _ with
        | some assembly =>
            obtain ⟨_, _, rfl, -⟩ := List.lookup_eq_some_iff.mp found
            exact .pure (before _ List.mem_append_cons_self)
        | none =>
            exact .bind (ih _ _) fun assembly explained =>
              .bind (.remember _ explained) fun _ _ => .pure explained

/-- **The assembly of a document** has explained faults. -/
theorem explained_assembly (graph : Graph) (count : Nat) : (graph.assembly count).Explained :=
  (graph.explained_assemble _ _ [] graph.root [] (by rintro _ ⟨⟩)).1

end Graph

/-- **Reading a text** fails for good only with what a document can hold. -/
theorem explained_parse {text : List Char} {fault : Fault} (failed : parse text = .error fault) :
    fault.Explained := by
  have tokens := Token.explained_ofText text
  unfold parse at failed
  cases read : Token.ofText text with
  | error other =>
      rw [read] at tokens failed
      cases failed
      dsimp only at tokens
      subst tokens
      trivial
  | ok found =>
      simp only [read] at tokens
      cases composed : Graph.ofTokens found with
      | error other =>
          simp only [read, composed, Bind.bind, Except.bind, Except.error.injEq] at failed
          subst failed
          exact Graph.explained_ofTokens tokens composed
      | ok graph? =>
          cases graph? with
          | none => simp [read, composed, Bind.bind, Except.bind, Pure.pure, Except.pure] at failed
          | some graph =>
              have assembled := graph.explained_assembly found.length
              have faults := FaultLevels.explained_or assembled.fault
                (Assembly.explained_findSome? assembled.levels)
              simp only [read, composed, Bind.bind, Except.bind] at failed
              split at failed
              · rename_i other present
                have same : other = fault := Except.error.inj failed
                exact same ▸ faults other present
              · cases failed

end Hexwire.Document.Yaml
