import Hexwire.Proofs.Buffer.Footprint
import Hexwire.Proofs.Line.Closed
import Hexwire.Proofs.Transaction.Trace

/-! # What a failed transaction leaves in the buffers

An operation changes no octet outside its target (`Hexwire.Operation.run_sameOutside`). One that
fails has done no more than to prepare its target (`Hexwire.Operation.store_of_error`): a read has
zeroed it, a transfer has copied its source into it, and whatever part of an echo came back is in no
buffer. The toggles around the operations leave the buffers alone. So a transaction that fails
leaves whole targets behind, by whichever step it failed
(`Hexwire.Transaction.leaves_whole_targets`).
-/

namespace Hexwire

namespace Operation

/-- The buffers that operations fill. -/
def targets (operations : List (Operation View)) : List View := operations.filterMap target?

/-- What a failed operation leaves behind: a read its target full of zeros, a transfer a copy of its
source in its target if the two are equally long, and all else the target as it was. -/
def Untorn (before after : Store) : Operation View → Prop
  | write _ => after = before
  | read target => after.load target = List.replicate target.size 0
  | transfer target source =>
    after.load target = if target.size = source.size then before.load source else before.load target
  | inPlace target => after.load target = before.load target
  | delay _ => after = before
  | unsupported _ => after = before

variable {world reached after : World} {operation : Operation View}
  {operations : List (Operation View)} {raised : Raised}

/-- The targets start with the one of the first operation. -/
theorem targets_cons (first : Operation View) (rest : List (Operation View)) :
    targets (first :: rest) = first.target?.toList ++ targets rest := by
  unfold targets
  rw [List.filterMap_cons]
  cases first.target? <;> rfl

/-- A single operation has one target at most. -/
theorem targets_singleton (operation : Operation View) :
    targets [operation] = operation.target?.toList := by
  rw [targets_cons]
  exact List.append_nil _

/-- The targets of operations in a row follow each other. -/
theorem targets_append (first second : List (Operation View)) :
    targets (first ++ second) = targets first ++ targets second := List.filterMap_append

/-- The beginning of an operation changes its target at most. -/
theorem sameOutside_prepared (operation : Operation View) (store : Store) :
    store.SameOutside operation.target?.toList (operation.prepared store) := by
  cases operation with
  | read target => exact Store.SameOutside.save _ _ _
  | transfer target source => exact Store.SameOutside.save _ _ _
  | _ => exact Store.SameOutside.refl _ _

/-- What an operation stores changes its target at most. -/
theorem sameOutside_stored (operation : Operation View) (store : Store) (received : Bytes) :
    store.SameOutside operation.target?.toList (operation.stored store received) := by
  unfold stored
  cases operation.target? with
  | none => exact Store.SameOutside.refl _ _
  | some target => exact Store.SameOutside.save _ _ _

/-- An operation that succeeds has prepared its target and stored what it received. -/
theorem store_of_ok (opened : world.device.isOpen) (within : operation.Within world.store)
    (ran : operation.run.result world = (.ok (), after)) :
    ∃ received, after.store = operation.stored (operation.prepared world.store) received := by
  cases refused : operation.refusal? with
  | some failure =>
      rw [run_of_refused refused] at ran
      cases ran
  | none =>
      have ready : (operation.begun world).device.isOpen :=
        (operation.begun_device world).1 ▸ opened
      obtain ⟨-, outcome, exchanged, paid, -, store, -⟩ :=
        Exchange.payload_dialogue ready (operation.outgoing world.store)
      rw [result_run refused within, paid] at ran
      cases outcome with
      | error raised => cases ran
      | ok received =>
          cases ran
          rw [store_begun] at store
          exact ⟨received, congrArg (operation.stored · received) store⟩

/-- **A failed operation has only prepared its target,** unless it was refused before that. -/
theorem store_of_error (opened : world.device.isOpen) (within : operation.Within world.store)
    (ran : operation.run.result world = (.error raised, after)) :
    after.store =
      if operation.refusal?.isSome then world.store else operation.prepared world.store := by
  cases refused : operation.refusal? with
  | some failure =>
      rw [run_of_refused refused] at ran
      cases ran
      rfl
  | none =>
      have ready : (operation.begun world).device.isOpen :=
        (operation.begun_device world).1 ▸ opened
      obtain ⟨-, outcome, exchanged, paid, -, store, -⟩ :=
        Exchange.payload_dialogue ready (operation.outgoing world.store)
      rw [result_run refused within, paid] at ran
      cases outcome with
      | error raised =>
          cases ran
          exact store.trans (operation.store_begun world)
      | ok received => cases ran

/-- An operation changes no octet outside its target. -/
theorem run_sameOutside (opened : world.device.isOpen) (within : operation.Within world.store) :
    world.store.SameOutside operation.target?.toList (operation.run.result world).2.store := by
  rcases ran : operation.run.result world with ⟨raised | ⟨⟩, after⟩
  · dsimp only
    rw [store_of_error opened within ran]
    split
    · exact Store.SameOutside.refl _ _
    · exact operation.sameOutside_prepared world.store
  · obtain ⟨received, store⟩ := store_of_ok opened within ran
    dsimp only
    rw [store]
    refine ((operation.sameOutside_prepared world.store).trans
      (operation.sameOutside_stored _ received)).mono ?_
    intro view member
    exact (List.mem_append.mp member).elim id id

/-- Operations in a row change their targets at most. -/
theorem runAll_sameOutside (opened : world.device.isOpen)
    (within : ∀ operation ∈ operations, operation.Within world.store) :
    world.store.SameOutside (targets operations) ((runAll operations).result world).2.store := by
  induction operations generalizing world with
  | nil => exact Store.SameOutside.refl _ _
  | cons first rest ih =>
      have inside := within first List.mem_cons_self
      have changed := first.run_sameOutside opened inside
      obtain ⟨received, outcome, middle, ran, talk, kept, -⟩ := first.run_dialogue opened inside
      rw [ran] at changed
      rw [targets_cons]
      cases outcome with
      | error raised =>
          rw [result_runAll_cons_of_error ran]
          exact changed.mono fun view member => List.mem_append_left _ member
      | ok _ =>
          rw [result_runAll_cons_of_ok ran]
          exact changed.trans (ih (talk.isOpen opened) (within_rest within kept))

/-- Operations that fail do so at one of them, which those before it have succeeded to reach. -/
theorem exists_failing (failed : (runAll operations).result world = (.error raised, after)) :
    ∃ earlier failing later reached, operations = earlier ++ failing :: later ∧
      (runAll earlier).result world = (.ok (), reached) ∧
        failing.run.result reached = (.error raised, after) := by
  induction operations generalizing world with
  | nil => cases failed
  | cons first rest ih =>
      -- Either the first fails itself or it goes before those that succeeded.
      rcases ran : first.run.result world with ⟨stopped | ⟨⟩, middle⟩
      · rw [result_runAll_cons_of_error ran] at failed
        exact ⟨[], first, rest, world, rfl, rfl, ran.trans failed⟩
      · rw [result_runAll_cons_of_ok ran] at failed
        obtain ⟨earlier, failing, later, reached, rfl, before, stopped⟩ := ih failed
        exact ⟨first :: earlier, failing, later, reached, rfl,
          (result_runAll_cons_of_ok ran earlier).trans before, stopped⟩

/-- Operations that succeed leave the line open and the buffers as long as they were. -/
theorem runAll_reaches (opened : world.device.isOpen)
    (within : ∀ operation ∈ operations, operation.Within world.store)
    (ran : (runAll operations).result world = (.ok (), reached)) :
    reached.device.isOpen ∧ world.store.SameSizes reached.store := by
  obtain ⟨received, outcome, after, ran', talk, same⟩ := runAll_dialogue opened within
  rw [ran] at ran'
  cases ran'
  exact ⟨talk.isOpen opened, same⟩

/-- An operation that fails leaves a whole target. -/
theorem untorn_of_error (opened : world.device.isOpen) (within : operation.Within world.store)
    (ran : operation.run.result world = (.error raised, after)) :
    operation.Untorn world.store after.store := by
  have store := store_of_error opened within ran
  cases operation with
  | write source => exact store
  | read target =>
      rw [Untorn, store]
      exact Store.load_save (within target List.mem_cons_self) List.length_replicate
  | transfer target source =>
      have inside := within target List.mem_cons_self
      have loaded := (within source (List.mem_cons_of_mem _ List.mem_cons_self)).length_load
      by_cases equal : target.size = source.size
      · simp only [refusal?, equal, ↓reduceIte, Option.isSome_none, Bool.false_eq_true] at store
        rw [Untorn, if_pos equal, store]
        exact Store.load_save inside (loaded.trans equal.symm)
      · simp only [refusal?, equal, ↓reduceIte, Option.isSome_some] at store
        rw [Untorn, if_neg equal, store]
  | inPlace target => exact congrArg (Store.load · target) store
  | delay nanoseconds => exact store
  | unsupported value => exact store

end Operation

namespace Transaction

variable {α : Type} {world selected : World}

/-- A release leaves the buffers alone. -/
theorem store_release (world : World) :
    (Transaction.release.result world).2.store = world.store := by
  have kept := ChipSelect.store_toggle world
  rw [result_release]
  rcases toggled : ChipSelect.toggle.result world with ⟨raised | ⟨⟩, after⟩
  · rw [toggled] at kept
    dsimp only
    split <;> exact kept
  · rw [toggled] at kept
    exact kept

/-- Work between two toggles leaves in the buffers what the work alone leaves there. -/
theorem store_bracketed (release : Bool) (work : Action α)
    (toggled : ChipSelect.toggle.result world = (.ok (), selected)) :
    ((bracketed release work).result world).2.store = (work.result selected).2.store := by
  rcases worked : work.result selected with ⟨raised | value, finished⟩
  · rw [result_bracketed_of_error toggled worked]
    have kept := store_release finished
    split
    · rcases freed : Transaction.release.result finished with ⟨other | ⟨⟩, after⟩ <;>
        rw [freed] at kept <;> exact kept
    · rfl
  · rw [result_bracketed_of_ok toggled worked]
    exact ChipSelect.store_toggle finished

/-- What a failed transaction leaves in the buffers, by the step that failed. -/
inductive Remains (world : World) (operations : List (Operation View)) (after : Store) : Prop where
  /-- Chip select was not toggled, and nothing has changed. -/
  | unselected {raised : Raised} {unselected : World}
      (failed : ChipSelect.toggle.result world = (.error raised, unselected))
      (same : after = world.store)
  /-- An operation failed. Its target is whole, and nothing else has changed since it started. No
  octet outside the targets up to its own has changed at all, and so no view apart from them. -/
  | stopped {earlier later : List (Operation View)} {failing : Operation View}
      {selected reached stopped : World} {raised : Raised}
      (toggled : ChipSelect.toggle.result world = (.ok (), selected))
      (placed : operations = earlier ++ failing :: later)
      (ran : (Operation.runAll earlier).result selected = (.ok (), reached))
      (failed : failing.run.result reached = (.error raised, stopped))
      (untorn : failing.Untorn reached.store after)
      (since : reached.store.SameOutside failing.target?.toList after)
      (outside : world.store.SameOutside (Operation.targets (earlier ++ [failing])) after)
      (apart : ∀ view : View,
        (∀ target ∈ Operation.targets (earlier ++ [failing]), view.Apart target) →
          after.load view = world.store.load view)
  /-- The operations succeeded and chip select was not toggled back. -/
  | unclosed {selected finished unclosed : World} {raised : Raised}
      (toggled : ChipSelect.toggle.result world = (.ok (), selected))
      (ran : (Operation.runAll operations).result selected = (.ok (), finished))
      (failed : ChipSelect.toggle.result finished = (.error raised, unclosed))
      (same : after = finished.store)
      (outside : world.store.SameOutside (Operation.targets operations) after)
      (apart : ∀ view : View, (∀ target ∈ Operation.targets operations, view.Apart target) →
        after.load view = world.store.load view)

/-- **A failed transaction tears no buffer.** Whatever the device does and whatever views the
operations share, a transaction that fails leaves every buffer as long as it was. Nothing has
changed if chip select could not be toggled. If an operation failed, its target is zeroed, copied or
unchanged as a whole, and no octet has changed that is not in a target up to its own. -/
theorem leaves_whole_targets (release : Bool) (world : World)
    (operations : List (Operation Operand)) (raised : Raised) (after : World) :
    let prepared := Session.prepare (Session.fresh world) operations
    (run release prepared.1).result prepared.2 = (.error raised, after) →
      prepared.2.store.SameSizes after.store ∧ Remains prepared.2 prepared.1 after.store := by
  intro prepared failed
  have within := Session.prepare_within world operations
  have kept := ChipSelect.store_toggle prepared.2
  rcases toggled : ChipSelect.toggle.result prepared.2 with ⟨cause | ⟨⟩, selected⟩
  · rw [run, result_bracketed_of_unselected toggled] at failed
    rw [toggled] at kept
    cases failed
    exact ⟨kept ▸ Store.SameSizes.refl _, .unselected toggled kept⟩
  · have opened := ChipSelect.isOpen_of_toggle toggled
    obtain ⟨opening, store⟩ := ChipSelect.toggle_acknowledged opened toggled
    have selectedOpen := opening.isOpen opened
    have inside : ∀ operation ∈ prepared.1, operation.Within selected.store := store ▸ within
    -- Neither the closing toggle nor the release touches the buffers: the operations decide.
    have ended := store_bracketed release (Operation.runAll prepared.1) toggled
    have changed := Operation.runAll_sameOutside selectedOpen inside
    obtain ⟨-, outcome, finished, worked, -, sizes⟩ :=
      Operation.runAll_dialogue selectedOpen inside
    rw [worked, ← run, failed] at ended
    rw [worked, store] at changed
    rw [store] at sizes
    dsimp only at ended changed
    rw [← ended] at changed sizes
    refine ⟨sizes, ?_⟩
    cases outcome with
    | ok _ =>
        rw [run, result_bracketed_of_ok toggled worked] at failed
        rcases closed : ChipSelect.toggle.result finished with ⟨other | ⟨⟩, unclosed⟩
        · exact .unclosed toggled worked closed ended changed fun view => changed.load
        · rw [closed] at failed
          cases failed
    | error cause =>
        obtain ⟨earlier, failing, later, reached, placed, ran, stopped⟩ :=
          Operation.exists_failing worked
        rw [placed] at inside
        obtain ⟨first, rest⟩ := List.forall_mem_append.mp inside
        obtain ⟨reachedOpen, same⟩ := Operation.runAll_reaches selectedOpen first ran
        have whole := (rest failing List.mem_cons_self).sameSizes same
        have since := failing.run_sameOutside reachedOpen whole
        have before := Operation.runAll_sameOutside selectedOpen first
        have untorn := Operation.untorn_of_error reachedOpen whole stopped
        rw [stopped] at since
        rw [ran, store] at before
        dsimp only at since before
        rw [← ended] at since untorn
        have outside := before.trans since
        rw [← Operation.targets_singleton, ← Operation.targets_append] at outside
        exact .stopped toggled placed ran stopped untorn since outside fun view => outside.load

/-- An acknowledgement and two echoes are queued, of which reads return at most three octets. The
read of the second half of the second echo fails. -/
def halfRead : World where
  device := .scripted
    { script :=
        { fifthReadFails with
          onRead := fun call => if call = 5 then .fail (.host .runtime []) else .give (some 3) }
      queue := [0x4F, 0x4B, 0x0D, 0x0A, 0x46, 0x46, 0x30, 0x45, 0x0D, 0x0A, 0x30, 0x37, 0x30, 0x38,
        0x78, 0x0A] }
  store := [(.named "a", [1, 2, 3, 4])]

/-- A transfer between views that overlap receives the first echo. The read after it fails, and
leaves two zeros, of which one is where it overlaps the transfer, and not the octet that it could
already know. -/
theorem leaves_halfRead :
    let prepared := Session.prepare (Session.fresh halfRead)
      [.transfer (.slice "a" (some 1) (some 3)) (.slice "a" none (some 2)),
        .read (.slice "a" (some 2) none), .inPlace (.slice "a" none (some 1))]
    ∃ raised after, (run false prepared.1).result prepared.2 = (.error raised, after) ∧
      after.store = [(.named "a", [1, 0xFF, 0, 0])] ∧
        prepared.2.store.SameSizes after.store ∧ Remains prepared.2 prepared.1 after.store := by
  intro prepared
  have left : ((run false prepared.1).result prepared.2).2.store =
      [(.named "a", [1, 0xFF, 0, 0])] := by
    decide +kernel
  have failed : ((run false prepared.1).result prepared.2).1.isOk = false := by
    decide +kernel
  rcases ran : (run false prepared.1).result prepared.2 with ⟨raised | ⟨⟩, after⟩
  · rw [ran] at left
    exact ⟨raised, after, rfl, left, leaves_whole_targets false halfRead _ raised after ran⟩
  · rw [ran] at failed
    cases failed

end Transaction

end Hexwire
