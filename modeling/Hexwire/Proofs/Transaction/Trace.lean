import Hexwire.Proofs.Transaction.Bracket

/-! # What a transaction hands to the device

On an open line a transaction hands over the chip-select command, then the frames of its operations
up to the first that fails, and then the chip-select command once more if all operations succeeded
or if chip select is released after failures (`Hexwire.Transaction.trace`). That this is all, and
that the device takes exactly these writes in this order, holds whatever the device does
(`Hexwire.Transaction.hands_over_trace`).
-/

namespace Hexwire

namespace Operation

/-- The frames of operations that run from a world on. Each is made of the buffers as they stand
when its operation starts, and nothing follows an operation that fails. -/
def trace : World → List (Operation View) → List Bytes
  | _, [] => []
  | world, first :: rest =>
    first.frames world.store ++
      match first.run.result world with
      | (.ok _, after) => trace after rest
      | (.error _, _) => []

/-- Operations hand over their trace and keep the lengths of all buffers. -/
theorem runAll_dialogue {world : World} (opened : world.device.isOpen)
    {operations : List (Operation View)}
    (within : ∀ operation ∈ operations, operation.Within world.store) :
    ∃ received outcome after, (runAll operations).result world = (outcome, after) ∧
      Dialogue world (trace world operations) received outcome after ∧
        world.store.SameSizes after.store := by
  induction operations generalizing world with
  | nil => exact ⟨[], _, _, rfl, Dialogue.silent _ _, Store.SameSizes.refl _⟩
  | cons first rest ih =>
      obtain ⟨received, outcome, middle, ran, talk, kept, -⟩ :=
        first.run_dialogue opened (within first List.mem_cons_self)
      cases outcome with
      | error raised =>
          refine ⟨received, _, _, result_runAll_cons_of_error ran rest, ?_, kept⟩
          simp only [trace, ran, List.append_nil]
          exact talk.stop
      | ok _ =>
          obtain ⟨more, outcome, after, finished, later, kept'⟩ :=
            ih (talk.isOpen opened) (within_rest within kept)
          refine ⟨received ++ more, outcome, after,
            (result_runAll_cons_of_ok ran rest).trans finished, ?_, kept.trans kept'⟩
          simp only [trace, ran]
          exact talk.trans later

end Operation

namespace Transaction

/-- What a transaction hands over from a world on: the toggle that opens it; unless that fails, the
frames of the operations; and the toggle that closes it, which after a failed operation is handed
over only where chip select is released. -/
def trace (release : Bool) (world : World) (operations : List (Operation View)) : List Bytes :=
  chipSelectCommand ::
    match ChipSelect.toggle.result world with
    | (.error _, _) => []
    | (.ok _, selected) =>
      Operation.trace selected operations ++
        match (Operation.runAll operations).result selected with
        | (.ok _, _) => [chipSelectCommand]
        | (.error _, _) => if release then [chipSelectCommand] else []

variable {world : World}

/-- The release hands over one toggle, whether it succeeds or not. -/
theorem release_dialogue (opened : world.device.isOpen) :
    ∃ received outcome after, Transaction.release.result world = (outcome, after) ∧
      Dialogue world [chipSelectCommand] received outcome after ∧ after.store = world.store := by
  obtain ⟨received, outcome, after, ran, talk, store, -⟩ := ChipSelect.toggle_dialogue opened
  rw [result_release, ran]
  cases outcome with
  | ok _ => exact ⟨received, _, _, rfl, talk.congr rfl rfl (by rintro - _ ⟨⟩), store⟩
  | error raised =>
      by_cases bridge : raised.failure.isBridge
      · simp only [bridge, ↓reduceIte]
        refine ⟨received, _, _, rfl, talk.congr rfl ?_ (by rintro - _ ⟨⟩), store⟩
        simp [World.handed, Event.handed?]
      · simp only [bridge, Bool.false_eq_true, ↓reduceIte]
        exact ⟨received, _, _, rfl, talk.stop, store⟩

/-- A transaction on views within their buffers hands over its trace. -/
theorem run_dialogue (opened : world.device.isOpen) (ordinary : world.device.FailsOrdinarily)
    (release : Bool) {operations : List (Operation View)}
    (within : ∀ operation ∈ operations, operation.Within world.store) :
    ∃ received outcome after, (run release operations).result world = (outcome, after) ∧
      Dialogue world (trace release world operations) received outcome after ∧
        world.store.SameSizes after.store := by
  unfold run trace
  obtain ⟨received, outcome, selected, toggled, talk, store, -⟩ :=
    ChipSelect.toggle_dialogue opened
  rw [toggled]
  cases outcome with
  | error raised =>
      refine ⟨received, _, _, result_bracketed_of_unselected toggled, talk.stop, ?_⟩
      rw [store]
      exact Store.SameSizes.refl _
  | ok _ =>
      have inside : ∀ operation ∈ operations, operation.Within selected.store := store ▸ within
      obtain ⟨heard, outcome, finished, worked, work, kept⟩ :=
        Operation.runAll_dialogue (talk.isOpen opened) inside
      rw [store] at kept
      have joined := talk.trans work
      have stillOpen := joined.isOpen opened
      dsimp only
      rw [worked]
      cases outcome with
      | ok _ =>
          obtain ⟨last, outcome, after, closed, close, same, -⟩ :=
            ChipSelect.toggle_dialogue stillOpen
          rw [result_bracketed_of_ok toggled worked, closed]
          refine ⟨received ++ heard ++ last, _, after, rfl, ?_, same.symm ▸ kept⟩
          cases outcome with
          | ok _ => exact (joined.trans close).congr rfl rfl (by rintro - _ ⟨⟩)
          | error raised => exact (joined.trans close).stop
      | error raised =>
          have plain := joined.ordinary ordinary raised rfl
          rw [result_bracketed_of_error toggled worked, plain, Bool.and_true]
          cases release with
          | false =>
              simp only [Bool.false_eq_true, ↓reduceIte, List.append_nil]
              exact ⟨received ++ heard, _, finished, rfl, joined.stop, kept⟩
          | true =>
              obtain ⟨last, outcome, after, freed, free, same⟩ := release_dialogue stillOpen
              have whole := joined.trans free
              simp only [↓reduceIte, freed]
              cases outcome with
              | ok _ =>
                  refine ⟨received ++ heard ++ last, _, after, rfl, whole.congr rfl rfl ?_,
                    same.symm ▸ kept⟩
                  rintro - _ ⟨⟩
                  exact plain
              | error other =>
                  exact ⟨received ++ heard ++ last, _, after, rfl, whole.stop, same.symm ▸ kept⟩

/-- **Everything that a transaction hands over.** On an open line and a device that fails with
ordinary failures only, a transaction hands exactly its trace to the writes of the device, whatever
these and the reads return. -/
theorem hands_over_trace (release : Bool) (world : World) (operations : List (Operation Operand))
    (opened : world.device.isOpen) (ordinary : world.device.FailsOrdinarily) :
    let prepared := Session.prepare (Session.fresh world) operations
    let after := ((run release prepared.1).result prepared.2).2
    after.handed = trace release prepared.2 prepared.1 ∧
      world.device.Took (trace release prepared.2 prepared.1) after.device := by
  intro prepared after
  have ready : prepared.2.device.isOpen := opened
  obtain ⟨received, outcome, finished, ran, talk, -⟩ :=
    run_dialogue ready ordinary release (Session.prepare_within world operations)
  have same : after = finished := congrArg Prod.snd ran
  rw [same]
  exact ⟨talk.handed, talk.talked.took⟩

/-- Reads return at most three octets, and the fifth of them fails. -/
def fifthReadFails : Script where
  onOpen := none
  onWrite := fun _ => none
  onRead := fun call => if call = 4 then .fail (.host .runtime []) else .give (some 3)
  onFlush := fun _ => none
  onClose := fun _ => none

/-- An acknowledgement and one echo are queued when the reads start. -/
def brokenOff : World where
  device := .scripted
    { script := fifthReadFails, queue := [0x4F, 0x4B, 0x0D, 0x0A, 0x66, 0x66, 0x0D, 0x0A] }
  store := [(.named "a", [0xAB, 7])]

/-- The device whose fifth read fails does so with an ordinary failure. -/
theorem failsOrdinarily_brokenOff : brokenOff.device.FailsOrdinarily := by
  refine ⟨by rintro _ _ ⟨⟩, ?_, by rintro _ _ ⟨⟩⟩
  intro call failure plan
  simp only [fifthReadFails] at plan
  split at plan
  · cases plan
    rfl
  · cases plan

/-- The second of three writes is handed over and fails while its echo is read; chip select is
released. -/
theorem hands_over_brokenOff :
    let prepared := Session.prepare (Session.fresh brokenOff)
      [.write (.fresh [1]), .inPlace (.whole "a"), .write (.fresh [2])]
    brokenOff.device.isOpen ∧ brokenOff.device.FailsOrdinarily ∧
      ((run true prepared.1).result prepared.2).2.handed =
        [chipSelectCommand, [0x30, 0x31, 0x78, 0x0A], [0x41, 0x42, 0x30, 0x37, 0x78, 0x0A],
          chipSelectCommand] :=
  ⟨rfl, failsOrdinarily_brokenOff,
    (hands_over_trace true brokenOff _ rfl failsOrdinarily_brokenOff).1.trans
      (by decide +kernel)⟩

end Transaction

end Hexwire
