import Hexwire.Proofs.Transaction.Trace
import Mathlib.Data.List.Forall2

/-! # Which replies a transaction accepts

On a scripted device without faults a transaction succeeds exactly when its operations are
acceptable and the queue starts with an acknowledgement, one echo for every operation that exchanges
octets, in order and of its size, and a second acknowledgement
(`Hexwire.Transaction.succeeds_iff`). It then has consumed exactly these replies, and the target of
each operation holds what its echo carries when the operation ends
(`Hexwire.Operation.Receives`).
-/

namespace Hexwire

/-- A scripted device without faults. It takes every write and answers none of itself. -/
def Device.Replays : Device → Prop
  | scripted d => d.script.Faultless
  | emulated _ => False

namespace Device.Replays

variable {device after : Device} {sent : List Bytes}

/-- A device that replays answers reads at once. -/
theorem prompt (replays : device.Replays) : device.Prompt := by
  cases device with
  | scripted d => exact replays
  | emulated e => exact replays.elim

/-- A device that replays accepts all writes. -/
theorem accepts (replays : device.Replays) (data : Bytes) : device.Accepts data := by
  cases device with
  | scripted d => exact replays
  | emulated e => exact replays.elim

/-- A device that replays has no answers but those that are queued. -/
theorem answers (replays : device.Replays) (sent : List Bytes) : device.answers sent = [] := by
  cases device with
  | scripted d => rfl
  | emulated e => exact replays.elim

/-- What a device that replays yields is what it has queued. -/
theorem answered (replays : device.Replays) {wanted : Bytes} (queued : device.queue = wanted) :
    device.queue ++ device.answers sent = wanted := by
  rw [replays.answers, List.append_nil, queued]

/-- A device that replays goes on doing so. -/
theorem took (replays : device.Replays) (took : device.Took sent after) : after.Replays := by
  cases took with
  | scripted script _ _ _ => simpa only [Device.Replays, script] using replays
  | emulated _ _ _ _ => exact replays.elim

end Device.Replays

namespace Operation

/-- An operation that can succeed: it is an operation, its buffers are equally long, and what it
exchanges fits into one frame. -/
def Acceptable : Operation View → Prop
  | write source => source.size ≤ Frame.maxPayload
  | read target => target.size ≤ Frame.maxPayload
  | transfer target source => target.size = source.size ∧ target.size ≤ Frame.maxPayload
  | inPlace target => target.size ≤ Frame.maxPayload
  | delay _ => True
  | unsupported _ => False

instance : (operation : Operation View) → Decidable operation.Acceptable
  | write _ => inferInstanceAs (Decidable (_ ≤ _))
  | read _ => inferInstanceAs (Decidable (_ ≤ _))
  | transfer _ _ => inferInstanceAs (Decidable (_ ∧ _))
  | inPlace _ => inferInstanceAs (Decidable (_ ≤ _))
  | delay _ => inferInstanceAs (Decidable True)
  | unsupported _ => inferInstanceAs (Decidable False)

/-- An operation is acceptable if it is not refused and fits a frame. -/
theorem acceptable_iff {operation : Operation View} :
    operation.Acceptable ↔ operation.refusal? = none ∧ operation.size ≤ Frame.maxPayload := by
  cases operation <;> simp [Acceptable, refusal?, size]

/-- The sizes of the exchanges that operations take part in. -/
def sizes (operations : List (Operation View)) : List Nat :=
  (operations.map size).filter (· ≠ 0)

/-- An operation on nothing awaits no echo. -/
theorem sizes_cons_of_empty {first : Operation View} (empty : first.size = 0)
    (rest : List (Operation View)) : sizes (first :: rest) = sizes rest := by
  simp [sizes, empty]

/-- An operation on something awaits an echo of its size. -/
theorem sizes_cons_of_filled {first : Operation View} (filled : first.size ≠ 0)
    (rest : List (Operation View)) : sizes (first :: rest) = first.size :: sizes rest := by
  simp [sizes, filled]

/-- Echoes of the sizes of operations are what answers the first operation and the echoes that are
left for the others. -/
theorem exists_answers {first : Operation View} {others : List (Operation View)}
    {echoes : List Bytes} (proper : List.Forall₂ Frame.IsEcho (sizes (first :: others)) echoes) :
    ∃ received answer left, Exchange.Answers first.size received answer ∧
      List.Forall₂ Frame.IsEcho (sizes others) left ∧
        echoes.flatten = received ++ left.flatten := by
  by_cases empty : first.size = 0
  · rw [sizes_cons_of_empty empty] at proper
    refine ⟨[], [], echoes, ?_, proper, rfl⟩
    simp only [Exchange.Answers, empty, ↓reduceIte, and_self]
  · rw [sizes_cons_of_filled empty] at proper
    cases proper with
    | cons echo proper =>
        obtain ⟨payload, sized, carries⟩ := echo.exists_echoes
        refine ⟨_, payload, _, ?_, proper, List.flatten_cons⟩
        simp only [Exchange.Answers, empty, ↓reduceIte]
        exact ⟨sized, carries⟩

/-- Operations that succeed one after the other from a world on, with the echoes that they receive:
an operation that exchanges octets receives one echo of its size, and its target, if it has one,
holds what the echo carries when the operation ends. -/
inductive Receives : World → List (Operation View) → List Bytes → Prop where
  | nil (world : World) : Receives world [] []
  | silent {world after : World} {first : Operation View} {rest : List (Operation View)}
      {echoes : List Bytes} (ran : first.run.result world = (.ok (), after))
      (empty : first.size = 0) (later : Receives after rest echoes) :
      Receives world (first :: rest) echoes
  | echo {world after : World} {first : Operation View} {rest : List (Operation View)}
      {echo payload : Bytes} {echoes : List Bytes}
      (ran : first.run.result world = (.ok (), after)) (filled : first.size ≠ 0)
      (sized : payload.length = first.size) (carries : Frame.Echoes payload echo)
      (holds : ∀ target, first.target? = some target → after.store.load target = payload)
      (later : Receives after rest echoes) :
      Receives world (first :: rest) (echo :: echoes)

/-- The echoes are those of the sizes of the operations, in order. -/
theorem Receives.isEcho {world : World} {operations : List (Operation View)} {echoes : List Bytes}
    (receives : Receives world operations echoes) :
    List.Forall₂ Frame.IsEcho (sizes operations) echoes := by
  induction receives with
  | nil => exact .nil
  | silent ran empty later ih =>
      rw [sizes_cons_of_empty empty]
      exact ih
  | echo ran filled sized carries holds later ih =>
      rw [sizes_cons_of_filled filled]
      exact .cons (sized ▸ carries.isEcho) ih

variable {world after : World}

/-- Operations that succeed are acceptable and have received echoes. -/
theorem runAll_received (opened : world.device.isOpen) {operations : List (Operation View)}
    (within : ∀ operation ∈ operations, operation.Within world.store)
    (succeeded : (runAll operations).result world = (.ok (), after)) :
    (∀ operation ∈ operations, operation.Acceptable) ∧
      ∃ echoes, Receives world operations echoes ∧
        Dialogue world (trace world operations) echoes.flatten
          (.ok () : Except Raised Unit) after := by
  induction operations generalizing world with
  | nil =>
      cases succeeded
      exact ⟨List.forall_mem_nil _, [], .nil _, Dialogue.silent _ _⟩
  | cons first rest ih =>
      obtain ⟨received, outcome, middle, ran, talk, kept, succeeds⟩ :=
        first.run_dialogue opened (within first List.mem_cons_self)
      cases outcome with
      | error raised =>
          rw [result_runAll_cons_of_error ran] at succeeded
          cases succeeded
      | ok _ =>
          obtain ⟨accepted, fits, payload, answers, holds⟩ := succeeds rfl
          rw [result_runAll_cons_of_ok ran] at succeeded
          obtain ⟨others, echoes, receives, later⟩ :=
            ih (talk.isOpen opened) (within_rest within kept) succeeded
          have joined : Dialogue world (trace world (first :: rest)) (received ++ echoes.flatten)
              (.ok () : Except Raised Unit) after := by
            simp only [trace, ran]
            exact talk.trans later
          refine ⟨List.forall_mem_cons.mpr ⟨acceptable_iff.mpr ⟨accepted, fits⟩, others⟩, ?_⟩
          by_cases empty : first.size = 0
          · simp only [Exchange.Answers, empty, ↓reduceIte] at answers
            rw [answers.1, List.nil_append] at joined
            exact ⟨echoes, .silent ran empty receives, joined⟩
          · simp only [Exchange.Answers, empty, ↓reduceIte] at answers
            exact ⟨received :: echoes, .echo ran empty answers.1 answers.2 holds receives, joined⟩

/-- An acceptable operation succeeds when what answers it is at the head of the queue, and leaves
the rest of the queue. -/
theorem run_replayed {operation : Operation View} {received answer rest : Bytes}
    (opened : world.device.isOpen) (replays : world.device.Replays)
    (within : operation.Within world.store) (acceptable : operation.Acceptable)
    (answers : Exchange.Answers operation.size received answer)
    (queued : world.device.queue = received ++ rest) :
    ∃ after, operation.run.result world = (.ok (), after) ∧ after.device.queue = rest ∧
      after.device.isOpen ∧ after.device.Replays ∧ world.store.SameSizes after.store := by
  obtain ⟨accepted, fits⟩ := acceptable_iff.mp acceptable
  obtain ⟨after, ran, store, left, took⟩ := operation.run_succeeds opened within accepted fits
    (fun frame _ => replays.accepts frame) replays.prompt answers (replays.answered queued)
  have stillOpen : after.device.isOpen := took.isOpen.trans opened
  exact ⟨after, ran, left, stillOpen, replays.took took,
    store ▸ (operation.sameSizes_begun world).trans (operation.sameSizes_stored _ _)⟩

/-- Acceptable operations succeed when echoes of their sizes are at the head of the queue. -/
theorem runAll_succeeds (opened : world.device.isOpen) (replays : world.device.Replays)
    {operations : List (Operation View)}
    (within : ∀ operation ∈ operations, operation.Within world.store)
    (acceptable : ∀ operation ∈ operations, operation.Acceptable) {echoes : List Bytes}
    {rest : Bytes} (proper : List.Forall₂ Frame.IsEcho (sizes operations) echoes)
    (queued : world.device.queue = echoes.flatten ++ rest) :
    ∃ after, (runAll operations).result world = (.ok (), after) ∧ after.device.queue = rest ∧
      after.device.isOpen ∧ after.device.Replays := by
  induction operations generalizing world echoes with
  | nil =>
      cases proper
      exact ⟨world, rfl, queued, opened, replays⟩
  | cons first others ih =>
      obtain ⟨fine, later⟩ := List.forall_mem_cons.mp acceptable
      obtain ⟨received, answer, left, answers, proper', whole⟩ := exists_answers proper
      rw [whole, List.append_assoc] at queued
      obtain ⟨middle, ran, queue, stillOpen, stillReplays, kept⟩ :=
        run_replayed opened replays (within first List.mem_cons_self) fine answers queued
      rw [result_runAll_cons_of_ok ran]
      exact ih stillOpen stillReplays (within_rest within kept) later proper' queue

end Operation

namespace Transaction

variable {world after : World} {release : Bool} {operations : List (Operation View)}

/-- A transaction that succeeds has received the echoes of its operations between two
acknowledgements. -/
theorem run_received (opened : world.device.isOpen)
    (within : ∀ operation ∈ operations, operation.Within world.store)
    (succeeded : (run release operations).result world = (.ok (), after)) :
    (∀ operation ∈ operations, operation.Acceptable) ∧
      ∃ echoes, Operation.Receives (ChipSelect.toggle.result world).2 operations echoes ∧
        Dialogue world (trace release world operations)
          (ChipSelect.acknowledgement ++ echoes.flatten ++ ChipSelect.acknowledgement)
          (.ok () : Except Raised Unit) after := by
  obtain ⟨selected, finished, toggled, worked, closed⟩ := result_run_eq_ok_iff.mp succeeded
  obtain ⟨opening, store⟩ := ChipSelect.toggle_acknowledged opened toggled
  obtain ⟨acceptable, echoes, receives, work⟩ :=
    Operation.runAll_received (opening.isOpen opened) (store ▸ within) worked
  have joined := opening.trans work
  obtain ⟨closing, -⟩ := ChipSelect.toggle_acknowledged (joined.isOpen opened) closed
  have whole := joined.trans closing
  refine ⟨acceptable, echoes, ?_, ?_⟩
  · rw [toggled]
    exact receives
  · simp only [trace, toggled, worked]
    exact whole

/-- Acceptable operations succeed in a transaction when the queue starts with echoes of their sizes
between two acknowledgements. -/
theorem run_accepts (opened : world.device.isOpen) (replays : world.device.Replays)
    (within : ∀ operation ∈ operations, operation.Within world.store)
    (acceptable : ∀ operation ∈ operations, operation.Acceptable) {echoes : List Bytes}
    {rest : Bytes} (proper : List.Forall₂ Frame.IsEcho (Operation.sizes operations) echoes)
    (queued : world.device.queue = ChipSelect.acknowledgement ++ echoes.flatten ++
      ChipSelect.acknowledgement ++ rest) :
    ∃ after, (run release operations).result world = (.ok (), after) := by
  rw [List.append_assoc, List.append_assoc] at queued
  obtain ⟨selected, toggled, store, queue, took⟩ := ChipSelect.toggle_succeeds opened
    (replays.accepts _) replays.prompt (replays.answered queued)
  obtain ⟨finished, worked, left, stillOpen, stillReplays⟩ :=
    Operation.runAll_succeeds (took.isOpen.trans opened) (replays.took took) (store ▸ within)
      acceptable proper queue
  obtain ⟨after, closed, -⟩ := ChipSelect.toggle_succeeds stillOpen (stillReplays.accepts _)
    stillReplays.prompt (stillReplays.answered left)
  exact ⟨after, result_run_eq_ok_iff.mpr ⟨selected, finished, toggled, worked, closed⟩⟩

/-- **Exactly these replies are accepted.** On an open scripted device without faults, however its
reads cut up the queue, a transaction succeeds exactly when all its operations are acceptable and
the queue starts with an acknowledgement, an echo of each size that the operations exchange, in
order, and an acknowledgement. If it succeeds it has consumed exactly these, and every target holds
what its echo carries when its operation ends. -/
theorem succeeds_iff (release : Bool) (world : World) (operations : List (Operation Operand))
    (opened : world.device.isOpen) (replays : world.device.Replays) :
    let prepared := Session.prepare (Session.fresh world) operations
    let selected := (ChipSelect.toggle.result prepared.2).2
    let finished := (run release prepared.1).result prepared.2
    (finished.1 = .ok () ↔
      (∀ operation ∈ prepared.1, operation.Acceptable) ∧
        ∃ echoes rest, List.Forall₂ Frame.IsEcho (Operation.sizes prepared.1) echoes ∧
          world.device.queue = ChipSelect.acknowledgement ++ echoes.flatten ++
            ChipSelect.acknowledgement ++ rest) ∧
    (finished.1 = .ok () →
      ∃ echoes, List.Forall₂ Frame.IsEcho (Operation.sizes prepared.1) echoes ∧
        world.device.queue = ChipSelect.acknowledgement ++ echoes.flatten ++
          ChipSelect.acknowledgement ++ finished.2.device.queue ∧
        Operation.Receives selected prepared.1 echoes) := by
  intro prepared selected finished
  have ready : prepared.2.device.isOpen := opened
  have still : prepared.2.device.Replays := replays
  have within := Session.prepare_within world operations
  have received (succeeded : finished.1 = .ok ()) :
      (∀ operation ∈ prepared.1, operation.Acceptable) ∧
        ∃ echoes, Operation.Receives selected prepared.1 echoes ∧
          world.device.queue = ChipSelect.acknowledgement ++ echoes.flatten ++
            ChipSelect.acknowledgement ++ finished.2.device.queue := by
    have ran : (run release prepared.1).result prepared.2 = (.ok (), finished.2) :=
      Prod.ext succeeded rfl
    obtain ⟨acceptable, echoes, receives, talk⟩ := run_received ready within ran
    have gave := talk.talked.gave
    rw [still.answers, List.append_nil] at gave
    exact ⟨acceptable, echoes, receives, gave⟩
  refine ⟨⟨?_, ?_⟩, ?_⟩
  · intro succeeded
    obtain ⟨acceptable, echoes, receives, queue⟩ := received succeeded
    exact ⟨acceptable, echoes, _, receives.isEcho, queue⟩
  · rintro ⟨acceptable, echoes, rest, proper, queue⟩
    obtain ⟨after, ran⟩ : ∃ after, (run release prepared.1).result prepared.2 = (.ok (), after) :=
      run_accepts ready still within acceptable proper queue
    exact congrArg Prod.fst ran
  · intro succeeded
    obtain ⟨-, echoes, receives, queue⟩ := received succeeded
    exact ⟨echoes, receives.isEcho, queue, receives⟩

/-- Every read returns at most three octets. -/
def threeAtMost : Script where
  onOpen := none
  onWrite := fun _ => none
  onRead := fun _ => .give (some 3)
  onFlush := fun _ => none
  onClose := fun _ => none

/-- Giving three octets at most is no fault. -/
theorem faultless_threeAtMost : threeAtMost.Faultless :=
  ⟨fun _ => rfl, fun _ => rfl, fun _ => ⟨some 3, rfl, by decide⟩⟩

/-- Two acknowledgements are queued with two echoes between them, the first in digits of both cases
and with the other terminator, and an octet is left over. -/
def cutUp : World where
  device := .scripted
    { script := threeAtMost
      queue := [0x4F, 0x4B, 0x0D, 0x0A, 0x61, 0x42, 0x30, 0x46, 0x0D, 0x0A, 0x31, 0x32, 0x78, 0x0A,
        0x4F, 0x4B, 0x0D, 0x0A, 0x4F] }
  store := [(.named "a", [1, 2])]

/-- A transfer, a pause and a read receive the two echoes. -/
theorem succeeds_cutUp :
    let prepared := Session.prepare (Session.fresh cutUp)
      [.transfer (.whole "a") (.fresh [3, 4]), .delay 5, .read (.slice "a" none (some 1))]
    let selected := (ChipSelect.toggle.result prepared.2).2
    let finished := (run true prepared.1).result prepared.2
    cutUp.device.isOpen ∧ cutUp.device.Replays ∧ finished.1 = .ok () ∧
      ∃ echoes, List.Forall₂ Frame.IsEcho [2, 1] echoes ∧
        Operation.Receives selected prepared.1 echoes := by
  intro prepared selected finished
  obtain ⟨accepted, received⟩ := succeeds_iff true cutUp
    [.transfer (.whole "a") (.fresh [3, 4]), .delay 5, .read (.slice "a" none (some 1))]
    rfl faultless_threeAtMost
  have sizes : Operation.sizes prepared.1 = [2, 1] := by decide
  have acceptable : ∀ operation ∈ prepared.1, operation.Acceptable := by decide
  have first : Frame.IsEcho 2 [0x61, 0x42, 0x30, 0x46, 0x0D, 0x0A] :=
    ⟨[0x61, 0x42, 0x30, 0x46], Frame.lineTerminator, rfl, rfl,
      List.all_eq_true.mp (by decide), .inr rfl⟩
  have second : Frame.IsEcho 1 [0x31, 0x32, 0x78, 0x0A] :=
    ⟨[0x31, 0x32], Frame.terminator, rfl, rfl,
      List.all_eq_true.mp (by decide), .inl rfl⟩
  have echoes : List.Forall₂ Frame.IsEcho (Operation.sizes prepared.1) [_, _] :=
    sizes.symm ▸ List.Forall₂.cons first (.cons second .nil)
  have succeeded : finished.1 = .ok () := accepted.mpr ⟨acceptable, _, [0x4F], echoes, rfl⟩
  obtain ⟨echoes, proper, -, receives⟩ := received succeeded
  exact ⟨rfl, faultless_threeAtMost, succeeded, echoes, sizes ▸ proper, receives⟩

end Transaction

end Hexwire
