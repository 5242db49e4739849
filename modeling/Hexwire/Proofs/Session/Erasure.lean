import Hexwire.Proofs.Buffer.Renaming

/-! # Operations that a caller can leave out

Which operations on operands are idle is decided by the named buffers as they are when a
transaction starts. Without the idle ones the anonymous buffers are numbered differently, which
nothing shows: what is left becomes operations on views that stand for those of the whole list
(`Hexwire.Operation.bindAll_busy`). So idle operations can be left out of a transaction or put into
it, and only the pauses tell (`Hexwire.Session.idle_erased`).
-/

namespace Hexwire

open Store

namespace Operation

/-- The operations on operands that exchange something or are refused. -/
def busyIn (store : Store) (operations : List (Operation Operand)) : List (Operation Operand) :=
  operations.filter fun operation => !operation.isIdleIn store

variable {stands : BufferId → BufferId → Prop} {store store' : Store}

/-- Operations become views in one store as those of them that are busy do in another. -/
theorem bindAll_busy (standing : Standing stands store store') {base : Store}
    (same : ∀ name, store.contents (.named name) = base.contents (.named name))
    (operations : List (Operation Operand)) :
    ∃ further, Standing further (bindAll store operations).2
        (bindAll store' (busyIn base operations)).2 ∧
      (∀ {buffer buffer'}, stands buffer buffer' → further buffer buffer') ∧
        List.Forall₂ (Corresponds (View.Stands further)) (busy (bindAll store operations).1)
          (bindAll store' (busyIn base operations)).1 := by
  induction operations generalizing stands store store' with
  | nil => exact ⟨stands, standing, id, .nil⟩
  | cons first rest ih =>
      have later (name : String) :
          (first.bind store).2.contents (.named name) = base.contents (.named name) :=
        (first.contents_bind store name).trans (same name)
      have decided : (first.bind store).1.isIdle = first.isIdleIn base := first.isIdleIn_congr same
      rw [bindAll]
      dsimp only
      by_cases idle : first.isIdleIn base
      · rw [busyIn, List.filter_cons_of_neg (by simp [idle]), busy,
          List.filter_cons_of_neg (by simp [decided, idle])]
        -- It may give away buffers all the same, in the first store only; they stand for none.
        exact ih (first.bind_standing standing) later
      · rw [busyIn, List.filter_cons_of_pos (by simp [idle]), busy,
          List.filter_cons_of_pos (by simp [decided, idle])]
        obtain ⟨middle, more, bound, corresponds⟩ := first.bind_pair standing
        obtain ⟨further, all, more', others⟩ := ih bound later
        refine ⟨further, all, fun stand => more' (more stand), ?_⟩
        exact .cons (corresponds.mono fun same => same.mono more') others

/-- Corresponding operations have filled their targets with the same octets. -/
theorem shown_eq (naming : Naming stands) (renamed : Renamed stands store store')
    {operations others : List (Operation View)}
    (correspond : List.Forall₂ (Corresponds (View.Stands stands)) operations others) :
    operations.map (fun operation => Session.shown store operation.target?) =
      others.map (fun operation => Session.shown store' operation.target?) := by
  have load {view view' : View} (same : View.Stands stands view view') :
      Value.bytes (store.load view) = .bytes (store'.load view') :=
    congrArg Value.bytes ((kept_renamed naming).load renamed same)
  induction correspond with
  | nil => rfl
  | cons corresponds _ ih =>
      rw [List.map_cons, List.map_cons, ih]
      congr 1
      cases corresponds with
      | read same => exact load same
      | transfer same _ => exact load same
      | inPlace same => exact load same
      | _ => rfl

end Operation

namespace Session

open Transaction

/-- A transaction of operations on operands ends as that of those of them that are busy. -/
theorem run_busyIn (release : Bool) (world : World) (operations : List (Operation Operand)) :
    let prepared := prepare (fresh world) operations
    let prepared' := prepare (fresh world) (Operation.busyIn world.store.named operations)
    let taken := (Transaction.run release prepared.1).result prepared.2
    let taken' := (Transaction.run release prepared'.1).result prepared'.2
    AlikeButPauses taken taken' ∧
      (∀ name, taken.2.store.contents (.named name) = taken'.2.store.contents (.named name)) ∧
        (Operation.busy prepared.1).map (fun operation => shown taken.2.store operation.target?) =
          prepared'.1.map (fun operation => shown taken'.2.store operation.target?) := by
  intro prepared prepared' taken taken'
  obtain ⟨stands, standing, -, correspond⟩ :=
    Operation.bindAll_busy (standing_named world.store) (fun _ => rfl) operations
  have start : World.Rested (Renamed stands) prepared.2 prepared'.2 :=
    ⟨rfl, standing.renamed, rfl, rfl⟩
  obtain ⟨alike, renamed⟩ := run_rested (kept_renamed standing.naming) correspond release start
  exact ⟨alike, fun name => renamed _ _ (standing.naming.named name),
    Operation.shown_eq standing.naming renamed correspond⟩

/-- **Delays and empty operations can be left out,** or put in, at any place and in any number. Two
lists whose other operations are the same lead, on every device and however it fails, to the same
outcome, calls of the device and events, and they sleep alike but for the pauses. On buffers that
exist beforehand they leave the same buffers; on operands they leave the same named buffers and fill
the same targets. -/
theorem idle_erased :
    (∀ (release : Bool) (world : World) (operations others : List (Operation View)),
      Operation.busy operations = Operation.busy others →
      let taken := (Transaction.run release operations).result world
      let taken' := (Transaction.run release others).result world
      AlikeButPauses taken taken' ∧ taken.2.store = taken'.2.store) ∧
    ∀ (release : Bool) (world : World) (operations others : List (Operation Operand)),
      Operation.busyIn world.store.named operations = Operation.busyIn world.store.named others →
      let prepared := prepare (fresh world) operations
      let prepared' := prepare (fresh world) others
      let taken := (Transaction.run release prepared.1).result prepared.2
      let taken' := (Transaction.run release prepared'.1).result prepared'.2
      AlikeButPauses taken taken' ∧
        (∀ name, taken.2.store.contents (.named name) = taken'.2.store.contents (.named name)) ∧
          (Operation.busy prepared.1).map (fun operation => shown taken.2.store operation.target?) =
            (Operation.busy prepared'.1).map
              (fun operation => shown taken'.2.store operation.target?) := by
  refine ⟨fun release world operations others => run_erased release world, ?_⟩
  intro release world operations others same prepared prepared' taken taken'
  obtain ⟨alike, named, shown⟩ := run_busyIn release world operations
  obtain ⟨alike', named', shown'⟩ := run_busyIn release world others
  rw [same] at alike named shown
  exact ⟨alike.trans alike'.symm, fun name => (named name).trans (named' name).symm,
    shown.trans shown'.symm⟩

/-- A read that fails while an echo is awaited fails alike with two delays and three empty
operations around the exchange, one of them on octets of its own, and the buffer that was to be
exchanged is the same afterwards. -/
theorem idle_erased_brokenOff :
    let operations : List (Operation Operand) := [.delay 7, .write (.fresh []),
      .inPlace (.whole "a"), .transfer (.slice "a" (some 1) (some 1)) (.fresh []), .delay (-1),
      .write (.fresh [1]), .read (.slice "a" (some 5) none)]
    let others : List (Operation Operand) := [.inPlace (.whole "a"), .write (.fresh [1])]
    let prepared := prepare (fresh brokenOff) operations
    let prepared' := prepare (fresh brokenOff) others
    (Operation.busyIn brokenOff.store.named operations =
        Operation.busyIn brokenOff.store.named others ∧
      AlikeButPauses ((Transaction.run true prepared.1).result prepared.2)
        ((Transaction.run true prepared'.1).result prepared'.2)) ∧
      Operation.busy (prepared'.1 ++ [.delay 3]) = Operation.busy prepared'.1 ∧
      ((Transaction.run true (prepared'.1 ++ [.delay 3])).result brokenOff).2.store =
        ((Transaction.run true prepared'.1).result brokenOff).2.store := by
  intro operations others prepared prepared'
  have same : Operation.busyIn brokenOff.store.named operations =
      Operation.busyIn brokenOff.store.named others := rfl
  have same' : Operation.busy (prepared'.1 ++ [.delay 3]) = Operation.busy prepared'.1 := rfl
  obtain ⟨onViews, onOperands⟩ := idle_erased
  exact ⟨⟨same, (onOperands true brokenOff operations others same).1⟩, same',
    (onViews true brokenOff _ _ same').2⟩

end Session

end Hexwire
