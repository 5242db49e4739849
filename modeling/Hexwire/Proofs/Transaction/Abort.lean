import Hexwire.Proofs.Line.Faults
import Hexwire.Proofs.Transaction.Quiet
import Hexwire.Proofs.Transaction.Trace

/-! # What follows a failed operation

Where chip select is released after failures, an operation that fails ordinarily is followed by one
more toggle and nothing else; after an interrupt from the keyboard nothing at all is handed over
(`Hexwire.Transaction.hands_over_after_failure`). If that toggle fails as the transport does, it is
the only warning in the log, and the transaction ends with the failure of the operation. A toggle
that fails otherwise ends the transaction with its own failure
(`Hexwire.Transaction.ends_after_failure`).
-/

namespace Hexwire.Transaction

/-- What is still handed over after an operation has failed, where chip select is released. -/
def parting (raised : Raised) : List Bytes :=
  if raised.failure.isOrdinary then [chipSelectCommand] else []

/-- The end of a transaction after an operation has failed, by what became of the toggle that
followed: what the transaction fails with, and what it has warned of. -/
def ending (raised : Raised) : Except Raised Unit → Except Raised Unit × List Event
  | .ok _ => (.error raised, [])
  | .error other =>
    if other.failure.isBridge then (.error raised, [.releaseFailed other.failure])
    else (.error other, [])

section Aborted

variable {world selected finished : World} {operations : List (Operation View)} {raised : Raised}

/-- Up to the operation that fails, a transaction hands over a toggle and the frames of the
operations. -/
theorem aborted_dialogue (within : ∀ operation ∈ operations, operation.Within world.store)
    (toggled : ChipSelect.toggle.result world = (.ok (), selected))
    (failed : (Operation.runAll operations).result selected = (.error raised, finished)) :
    finished.device.isOpen ∧ ∃ received,
      Dialogue world (chipSelectCommand :: Operation.trace selected operations) received
        (.error raised : Except Raised Unit) finished := by
  have opened := ChipSelect.isOpen_of_toggle toggled
  obtain ⟨opening, store⟩ := ChipSelect.toggle_acknowledged opened toggled
  have inside : ∀ operation ∈ operations, operation.Within selected.store := store ▸ within
  obtain ⟨received, outcome, after, ran, work, -⟩ :=
    Operation.runAll_dialogue (opening.isOpen opened) inside
  rw [failed] at ran
  cases ran
  have joined := opening.trans work
  exact ⟨joined.isOpen opened, _, joined⟩

/-- The toggle and the operations of an aborted transaction have warned of nothing. -/
theorem aborted_warnings (toggled : ChipSelect.toggle.result world = (.ok (), selected))
    (failed : (Operation.runAll operations).result selected = (.error raised, finished)) :
    finished.warnings = world.warnings := by
  have opening := ChipSelect.quiet_toggle world
  have work := Operation.quiet_runAll operations selected
  rw [toggled] at opening
  rw [failed] at work
  exact work.trans opening

/-- An ordinary failure ends a transaction that releases chip select as the release does. -/
theorem ending_of_ordinary (ordinary : raised.failure.isOrdinary)
    (toggled : ChipSelect.toggle.result world = (.ok (), selected))
    (failed : (Operation.runAll operations).result selected = (.error raised, finished)) :
    let ended := (run true operations).result world
    ended.1 = (ending raised (ChipSelect.toggle.result finished).1).1 ∧
      ended.2.warnings =
        world.warnings ++ (ending raised (ChipSelect.toggle.result finished).1).2 := by
  have calm := ChipSelect.quiet_toggle finished
  rw [aborted_warnings toggled failed] at calm
  rw [run, result_bracketed_of_error toggled failed, ordinary, Bool.and_self, if_pos rfl,
    result_release]
  rcases ran : ChipSelect.toggle.result finished with ⟨other | ⟨⟩, after⟩
  · rw [ran] at calm
    by_cases bridge : other.failure.isBridge
    · simp only [ending, bridge, ↓reduceIte, true_and]
      rw [← calm]
      exact List.filter_append _ _
    · simp only [ending, bridge, Bool.false_eq_true, ↓reduceIte, true_and, List.append_nil]
      exact calm
  · rw [ran] at calm
    exact ⟨rfl, calm.trans (List.append_nil _).symm⟩

end Aborted

/-- **How an aborted transaction ends.** On a device that fails with ordinary failures only, a
transaction that releases chip select after failures and one of whose operations fails ends as the
toggle that follows lets it end. It ends with the failure of the operation if what the calls of a
toggle fail with are failures of the host's system. -/
theorem ends_after_failure (world : World) (operations : List (Operation Operand))
    (selected finished : World) (raised : Raised) (ordinary : world.device.FailsOrdinarily) :
    let prepared := Session.prepare (Session.fresh world) operations
    ChipSelect.toggle.result prepared.2 = (.ok (), selected) →
      (Operation.runAll prepared.1).result selected = (.error raised, finished) →
        let ended := (run true prepared.1).result prepared.2
        (ended.1, ended.2.warnings) = ending raised (ChipSelect.toggle.result finished).1 ∧
          (world.device.TogglesAsHost → ended.1 = .error raised) := by
  intro prepared toggled failed ended
  have within := Session.prepare_within world operations
  obtain ⟨-, received, talk⟩ := aborted_dialogue within toggled failed
  have plain := talk.ordinary ordinary raised rfl
  obtain ⟨outcome, warnings⟩ := ending_of_ordinary plain toggled failed
  refine ⟨Prod.ext outcome warnings, fun host => ?_⟩
  have still : finished.device.TogglesAsHost := Device.TogglesAsHost.took host talk.talked.took
  refine outcome.trans ?_
  rcases ran : ChipSelect.toggle.result finished with ⟨other | ⟨⟩, after⟩
  · rw [ending, if_pos (ChipSelect.isBridge_of_toggle_error still ran)]
  · rfl

/-- An acknowledgement is queued. The read of an echo fails as the host's system does, and the third
write, which is the one of a release, fails as given. -/
def vanishing (failure : Failure) : World where
  device := .scripted
    { script :=
        { onOpen := none
          onWrite := fun call => if call = 2 then some failure else none
          onRead := fun call => if call = 1 then .fail (.host .serial []) else .give none
          onFlush := fun _ => none
          onClose := fun _ => none }
      queue := ChipSelect.acknowledgement }

/-- The device fails with ordinary failures if the given one is ordinary. -/
theorem failsOrdinarily_vanishing {failure : Failure} (ordinary : failure.isOrdinary) :
    (vanishing failure).device.FailsOrdinarily := by
  refine ⟨?_, ?_, by rintro _ _ ⟨⟩⟩
  · intro call fault plan
    by_cases third : call = 2
    · simp only [third, ↓reduceIte, Option.some.injEq] at plan
      exact plan ▸ ordinary
    · simp only [third, ↓reduceIte] at plan
      cases plan
  · intro call fault plan
    by_cases second : call = 1
    · simp only [second, ↓reduceIte, ReadPlan.fail.injEq] at plan
      exact plan ▸ rfl
    · simp only [second, ↓reduceIte] at plan
      cases plan

/-- Chip select is toggled before the device vanishes. -/
theorem toggled_vanishing (failure : Failure) :
    let prepared := Session.prepare (Session.fresh (vanishing failure)) [.write (.fresh [1])]
    ChipSelect.toggle.result prepared.2 = (.ok (), (ChipSelect.toggle.result prepared.2).2) :=
  Prod.ext (by with_unfolding_all rfl) rfl

/-- The write fails as the read of its echo does. -/
theorem failed_vanishing (failure : Failure) :
    let prepared := Session.prepare (Session.fresh (vanishing failure)) [.write (.fresh [1])]
    let selected := (ChipSelect.toggle.result prepared.2).2
    (Operation.runAll prepared.1).result selected =
      (.error (Line.ofHost (Failure.host .serial []).raised),
        ((Operation.runAll prepared.1).result selected).2) :=
  Prod.ext (by with_unfolding_all rfl) rfl

/-- The release fails as its write does. -/
theorem released_vanishing (failure : Failure) :
    let prepared := Session.prepare (Session.fresh (vanishing failure)) [.write (.fresh [1])]
    let selected := (ChipSelect.toggle.result prepared.2).2
    let finished := ((Operation.runAll prepared.1).result selected).2
    (ChipSelect.toggle.result finished).1 = .error (Line.ofHostWrite failure.raised) := by
  with_unfolding_all rfl

/-- A write whose echo cannot be read, and a release that fails as the transport does. -/
theorem ends_vanishing :
    let prepared := Session.prepare (Session.fresh (vanishing (.host .brokenPipe [])))
      [.write (.fresh [1])]
    let ended := (run true prepared.1).result prepared.2
    (ended.1, ended.2.warnings) = (.error (Line.ofHost (Failure.host .serial []).raised),
      [.releaseFailed (Line.ofHost (Failure.host .brokenPipe []).raised).failure]) :=
  (ends_after_failure (vanishing (.host .brokenPipe [])) _ _ _ _ (failsOrdinarily_vanishing rfl)
    (toggled_vanishing _) (failed_vanishing _)).1.trans
      ((congrArg (ending _) (released_vanishing _)).trans (if_pos (Line.isBridge_ofHostWrite rfl)))

/-- A release that fails otherwise takes the place of the failure of the write. -/
theorem ends_otherwise_vanishing :
    ¬ ∀ (world : World) (operations : List (Operation Operand)) (selected finished : World)
        (raised : Raised), world.device.FailsOrdinarily →
      let prepared := Session.prepare (Session.fresh world) operations
      ChipSelect.toggle.result prepared.2 = (.ok (), selected) →
        (Operation.runAll prepared.1).result selected = (.error raised, finished) →
          ((run true prepared.1).result prepared.2).1 = .error raised := by
  intro kept
  have same := kept (vanishing (.host .runtime [])) _ _ _ _ (failsOrdinarily_vanishing rfl)
    (toggled_vanishing _) (failed_vanishing _)
  obtain ⟨ended, -⟩ := ending_of_ordinary (Line.isOrdinary_ofHost rfl) (toggled_vanishing _)
    (failed_vanishing _)
  have replaced : (.error (Failure.host .runtime []).raised : Except Raised Unit) =
      .error (Line.ofHost (Failure.host .serial []).raised) := by
    refine Eq.symm (same.symm.trans (ended.trans ?_))
    rw [released_vanishing]
    rfl
  have bridge : (Line.ofHost (Failure.host .serial []).raised).failure.isBridge :=
    Line.isBridge_ofHost rfl
  rw [← Except.error.inj replaced] at bridge
  exact Bool.false_ne_true bridge

/-- **What an aborted transaction still hands over.** Whatever the device does, a transaction that
releases chip select after failures and one of whose operations fails hands over, after everything
that its operations have, one toggle if the failure is ordinary and nothing otherwise. -/
theorem hands_over_after_failure (world : World) (operations : List (Operation Operand))
    (selected finished : World) (raised : Raised) :
    let prepared := Session.prepare (Session.fresh world) operations
    ChipSelect.toggle.result prepared.2 = (.ok (), selected) →
      (Operation.runAll prepared.1).result selected = (.error raised, finished) →
        let after := ((run true prepared.1).result prepared.2).2
        finished.handed = chipSelectCommand :: Operation.trace selected prepared.1 ∧
          after.handed = finished.handed ++ parting raised ∧
            finished.device.Took (parting raised) after.device := by
  intro prepared toggled failed after
  have within := Session.prepare_within world operations
  obtain ⟨opened, received, talk⟩ := aborted_dialogue within toggled failed
  refine ⟨talk.handed, ?_⟩
  have unfolded : after = ((bracketed true (Operation.runAll prepared.1)).result prepared.2).2 :=
    rfl
  rw [unfolded, result_bracketed_of_error toggled failed, Bool.true_and, parting]
  by_cases plain : raised.failure.isOrdinary
  · obtain ⟨last, outcome, freed, ran, free, -⟩ := release_dialogue opened
    rw [if_pos plain, if_pos plain, ran]
    cases outcome with
    | ok _ => exact ⟨free.handed, free.talked.took⟩
    | error other => exact ⟨free.handed, free.talked.took⟩
  · rw [if_neg plain, if_neg plain]
    exact ⟨(List.append_nil _).symm, Device.Took.refl _⟩

/-- The write whose echo cannot be read is followed by a toggle, which is handed over although it
fails. -/
theorem hands_over_vanishing :
    let prepared := Session.prepare (Session.fresh (vanishing (.host .brokenPipe [])))
      [.write (.fresh [1])]
    let raised := Line.ofHost (Failure.host .serial []).raised
    parting raised = [chipSelectCommand] ∧ ((run true prepared.1).result prepared.2).2.handed =
      [chipSelectCommand, [0x30, 0x31, 0x78, 0x0A]] ++ parting raised := by
  intro prepared raised
  obtain ⟨-, handed, -⟩ := hands_over_after_failure (vanishing (.host .brokenPipe [])) _ _ _ _
    (toggled_vanishing _) (failed_vanishing _)
  exact ⟨if_pos (Line.isOrdinary_ofHost rfl),
    handed.trans (congrArg (· ++ parting raised) (by decide +kernel))⟩

/-- An acknowledgement is queued, and the keyboard interrupts the read of an echo. -/
def interrupted : World where
  device := .scripted
    { script :=
        { onOpen := none
          onWrite := fun _ => none
          onRead := fun call => if call = 1 then .fail (.host .keyboardInterrupt []) else .give none
          onFlush := fun _ => none
          onClose := fun _ => none }
      queue := ChipSelect.acknowledgement }

/-- A write that the keyboard interrupts is not followed by a toggle. -/
theorem hands_over_nothing_interrupted :
    ¬ ∀ (world : World) (operations : List (Operation Operand)) (selected finished : World)
        (raised : Raised),
      let prepared := Session.prepare (Session.fresh world) operations
      ChipSelect.toggle.result prepared.2 = (.ok (), selected) →
        (Operation.runAll prepared.1).result selected = (.error raised, finished) →
          ((run true prepared.1).result prepared.2).2.handed =
            finished.handed ++ [chipSelectCommand] := by
  intro released
  have handed := released interrupted [.write (.fresh [1])] _ _
    (Failure.host .keyboardInterrupt []).raised (Prod.ext (by with_unfolding_all rfl) rfl)
    (Prod.ext (by with_unfolding_all rfl) rfl)
  have same : ([chipSelectCommand, [0x30, 0x31, 0x78, 0x0A]] : List Bytes) =
      [chipSelectCommand, [0x30, 0x31, 0x78, 0x0A], chipSelectCommand] := by
    refine Eq.trans ?_ (handed.trans ?_)
    · decide +kernel
    · decide +kernel
  exact absurd same (by decide)

end Hexwire.Transaction
