import Hexwire.Proofs.Transaction.Served

/-! # Transactions without a line

Operations have a meaning on the buffers alone: what the peripheral clocks in for what an operation
sends is put into its target (`Hexwire.Operation.direct`). A transaction on an emulated bridge that
serves a peripheral has this meaning, whichever views of one buffer its operations share
(`Hexwire.Transaction.run_refines_directAll`): digits, frames, echoes and the queue between them
cannot be told from their absence.
-/

namespace Hexwire

namespace Operation

/-- A target is filled with what the peripheral clocks in for octets. Nothing happens where there
are none. Octets that do not fit into a frame are refused, and the buffers stay as they were
prepared. -/
def filled (answer : Bytes → Bytes) (store prepared : Store) (target : View) (data : Bytes) :
    Except Raised Unit × Store :=
  if target.size = 0 then (.ok (), store)
  else if Frame.maxPayload < target.size then
    (.error (Frame.Fault.long target.size).raised, prepared)
  else (.ok (), store.save target (answer data))

/-- **An operation on the buffers alone.** What is sent is taken from the buffers as they stand. A
read sends zeros, with which it overwrites its target before, and a transfer overwrites its target
with its source before. -/
def direct (answer : Bytes → Bytes) (store : Store) : Operation View → Except Raised Unit × Store
  | write source =>
    if Frame.maxPayload < source.size then
      (.error (Frame.Fault.long source.size).raised, store)
    else (.ok (), store)
  | read target =>
    let zeros := List.replicate target.size 0
    filled answer store (store.save target zeros) target zeros
  | transfer target source =>
    if target.size = source.size then
      let copied := store.load source
      filled answer store (store.save target copied) target copied
    else (.error (unequal target source).raised, store)
  | inPlace target => filled answer store store target (store.load target)
  | delay _ => (.ok (), store)
  | unsupported value => (.error (unknown value).raised, store)

/-- Operations on the buffers alone, in order, up to the first that fails. -/
def directAll (answer : Bytes → Bytes) (store : Store) :
    List (Operation View) → Except Raised Unit × Store
  | [] => (.ok (), store)
  | first :: rest =>
    match first.direct answer store with
    | (.ok _, after) => directAll answer after rest
    | (.error raised, after) => (.error raised, after)

variable {answer : Bytes → Bytes} {world : World} {operation : Operation View}

/-- An operation that is refused is so without a line as well. -/
theorem direct_of_refused {failure : Failure} (refused : operation.refusal? = some failure)
    (store : Store) : operation.direct answer store = (.error failure.raised, store) := by
  obtain ⟨target, source, rfl, differ, rfl⟩ | ⟨value, rfl, rfl⟩ := refusal_cases refused
  · simp only [direct, differ, ↓reduceIte]
  · rfl

/-- A target that does not fit a frame is prepared and then refused. -/
theorem filled_of_long {target : View} (long : Frame.maxPayload < target.size)
    (store prepared : Store) (data : Bytes) :
    filled answer store prepared target data =
      (.error (Frame.Fault.long target.size).raised, prepared) := by
  have present : target.size ≠ 0 := by omega
  simp only [filled, present, long, ↓reduceIte]

/-- Filling with octets that fit is one write, also where there are none. -/
theorem filled_of_fits (length : ∀ payload, (answer payload).length = payload.length)
    {target : View} {data : Bytes} (sized : data.length = target.size)
    (fits : target.size ≤ Frame.maxPayload) (store prepared : Store) :
    filled answer store prepared target data = (.ok (), store.save target (answer data)) := by
  have short : ¬ Frame.maxPayload < target.size := by omega
  by_cases empty : target.size = 0
  · have nothing : answer data = [] := by
      rw [← List.length_eq_zero_iff, length, sized, empty]
    simp only [filled, empty, ↓reduceIte, nothing, Store.save_nil]
  · simp only [filled, empty, short, ↓reduceIte]

/-- An operation on octets that do not fit leaves the buffers as it has prepared them. -/
theorem direct_of_long (accepted : operation.refusal? = none)
    (long : Frame.maxPayload < operation.size) :
    operation.direct answer world.store =
      (.error (Frame.Fault.long operation.size).raised, (operation.begun world).store) := by
  cases operation with
  | write source =>
      simp only [size] at long
      simp only [direct, long, ↓reduceIte]
      rfl
  | read target => exact filled_of_long long _ _ _
  | transfer target source =>
      have equal := size_eq_of_accepted accepted
      rw [direct, if_pos equal]
      exact filled_of_long long _ _ _
  | inPlace target => exact filled_of_long long _ _ _
  | delay _ => cases long
  | unsupported _ => cases accepted

/-- An operation on octets that fit stores what the peripheral clocks in for what it sends. -/
theorem direct_of_fits (length : ∀ payload, (answer payload).length = payload.length)
    (within : operation.Within world.store) (accepted : operation.refusal? = none)
    (fits : operation.size ≤ Frame.maxPayload) :
    operation.direct answer world.store =
      (.ok (), operation.stored (operation.begun world).store
        (answer (operation.outgoing world.store))) := by
  have sized := within.length_outgoing accepted
  -- A target that is overwritten before is overwritten once more by as many octets.
  have overwritten (target : View) (data : Bytes) (sized : data.length = target.size)
      (fits : target.size ≤ Frame.maxPayload) :
      filled answer world.store (world.store.save target data) target data =
        (.ok (), (world.store.save target data).save target (answer data)) := by
    rw [filled_of_fits length sized fits, Store.save_save _ _ (length data).symm]
  cases operation with
  | write source =>
      have short : ¬ Frame.maxPayload < source.size := Nat.not_lt.mpr fits
      simp only [direct, short, ↓reduceIte]
      rfl
  | read target => exact overwritten target _ sized fits
  | transfer target source =>
      have equal := size_eq_of_accepted accepted
      rw [direct, if_pos equal]
      exact overwritten target _ sized fits
  | inPlace target => exact filled_of_fits length sized fits _ _
  | delay _ => rfl
  | unsupported _ => cases accepted

/-- With a function for the peripheral, the exchange of what fits is the function. -/
theorem exchange_ofFunction (length : ∀ payload, (answer payload).length = payload.length)
    {data : Bytes} (fits : data.length ≤ Frame.maxPayload) :
    Exchange.serve (.ofFunction answer) data = .ok (answer data) := by
  by_cases empty : data = []
  · have nothing : answer data = [] := by
      rw [← List.length_eq_zero_iff, length, empty, List.length_nil]
    rw [Exchange.serve, if_pos empty, nothing]
  · rw [Exchange.serve_of_fits empty fits]
    rfl

/-- With a function for the peripheral, an operation without a line is one on the buffers alone. -/
theorem serve_ofFunction (length : ∀ payload, (answer payload).length = payload.length)
    (within : operation.Within world.store) :
    operation.serve (.ofFunction answer) world.store = operation.direct answer world.store := by
  unfold serve
  cases refused : operation.refusal? with
  | some failure => rw [direct_of_refused refused]
  | none =>
      have sized := within.length_outgoing refused
      by_cases long : Frame.maxPayload < operation.size
      · rw [direct_of_long refused long, store_begun, ← sized]
        rw [← sized] at long
        have filled : operation.outgoing world.store ≠ [] := by
          intro empty
          rw [empty] at long
          cases long
        rw [Exchange.serve, if_neg filled, if_pos long]
      · have fits : operation.size ≤ Frame.maxPayload := Nat.not_lt.mp long
        rw [direct_of_fits length within refused fits, store_begun,
          exchange_ofFunction length (sized.symm ▸ fits)]

end Operation

/-- An emulated bridge that serves a function of the peripheral and has nothing queued. -/
def Device.Serves (answer : Bytes → Bytes) (device : Device) : Prop :=
  ∃ e, device = .emulated e ∧ e.behaviour.Serves answer ∧ e.queue = []

namespace Device.Serves

variable {answer : Bytes → Bytes} {device : Device} {behaviour : Emulator.Behaviour}
  {isOpen : Bool} {toggles : Nat}

/-- A bridge that serves a function is idle. -/
theorem exists_idle (serves : device.Serves answer) (opened : device.isOpen) :
    ∃ behaviour toggles, behaviour.Serves answer ∧ device.Idle behaviour true toggles := by
  obtain ⟨e, rfl, behaves, empty⟩ := serves
  exact ⟨e.behaviour, e.toggles, behaves, e, rfl, rfl, opened, rfl, empty⟩

/-- An idle bridge serves as its behaviour does. -/
theorem of_idle (behaves : behaviour.Serves answer)
    (idle : device.Idle behaviour isOpen toggles) : device.Serves answer := by
  obtain ⟨e, rfl, rfl, -, -, empty⟩ := idle
  exact ⟨e, rfl, behaves, empty⟩

end Device.Serves

/-- **A toggle is answered at once** by a bridge that serves, and nothing is left behind. -/
theorem ChipSelect.toggle_served {answer : Bytes → Bytes} {world : World}
    (opened : world.device.isOpen) (serves : world.device.Serves answer) :
    ∃ after, toggle.result world = (.ok (), after) ∧ after.store = world.store ∧
      after.device.isOpen ∧ after.device.Serves answer := by
  obtain ⟨behaviour, toggles, behaves, idle⟩ := serves.exists_idle opened
  obtain ⟨after, toggled, store, left⟩ := toggle_idle behaves.conforms idle
  exact ⟨after, toggled, store, left.isOpen_eq, .of_idle behaves left⟩

namespace Operation

variable {answer : Bytes → Bytes} {world : World}

/-- **An operation on a bridge that serves is the operation on the buffers alone.** -/
theorem run_served (opened : world.device.isOpen) (serves : world.device.Serves answer)
    {operation : Operation View} (within : operation.Within world.store) :
    ∃ outcome after, operation.run.result world = (outcome, after) ∧
      operation.direct answer world.store = (outcome, after.store) ∧ after.device.isOpen ∧
        after.device.Serves answer ∧ world.store.SameSizes after.store := by
  obtain ⟨behaviour, toggles, behaves, idle⟩ := serves.exists_idle opened
  obtain ⟨after, ran, store, left⟩ := run_served_idle behaves.conforms idle within
  obtain ⟨_, _, _, ran', -, kept, -⟩ := operation.run_dialogue opened within
  rw [ran] at ran'
  cases ran'
  rw [behaves.clocks, serve_ofFunction behaves.length within] at ran store
  exact ⟨_, after, ran, Prod.ext rfl store.symm, left.isOpen_eq, .of_idle behaves left, kept⟩

/-- Operations on a bridge that serves are the operations on the buffers alone. -/
theorem runAll_served (opened : world.device.isOpen) (serves : world.device.Serves answer)
    {operations : List (Operation View)}
    (within : ∀ operation ∈ operations, operation.Within world.store) :
    ∃ outcome after, (runAll operations).result world = (outcome, after) ∧
      directAll answer world.store operations = (outcome, after.store) ∧ after.device.isOpen ∧
        after.device.Serves answer := by
  induction operations generalizing world with
  | nil => exact ⟨_, world, rfl, rfl, opened, serves⟩
  | cons first rest ih =>
      obtain ⟨outcome, middle, ran, meant, stillOpen, stillServes, kept⟩ :=
        run_served opened serves (within first List.mem_cons_self)
      simp only [directAll, meant]
      cases outcome with
      | error raised =>
          exact ⟨_, middle, result_runAll_cons_of_error ran rest, rfl, stillOpen, stillServes⟩
      | ok _ =>
          rw [result_runAll_cons_of_ok ran]
          exact ih stillOpen stillServes (within_rest within kept)

end Operation

namespace Transaction

variable {answer : Bytes → Bytes} {world : World}

/-- The release of chip select succeeds on a bridge that serves. -/
theorem release_served (opened : world.device.isOpen) (serves : world.device.Serves answer) :
    ∃ after, Transaction.release.result world = (.ok (), after) ∧ after.store = world.store ∧
      after.device.Serves answer := by
  obtain ⟨after, toggled, store, -, still⟩ := ChipSelect.toggle_served opened serves
  exact ⟨after, by rw [result_release, toggled], store, still⟩

/-- **The line cannot be told from its absence.** On an open emulated bridge that acknowledges and
echoes as the line expects, has nothing queued, and serves a function of the peripheral that keeps
the length of payloads, a transaction ends as its operations on the buffers alone do: with the same
success or failure and the same contents of all buffers, of which the operations may share any
views. Nothing is left in the queue. -/
theorem run_refines_directAll (release : Bool) (world : World)
    (operations : List (Operation Operand)) (answer : Bytes → Bytes)
    (opened : world.device.isOpen) (serves : world.device.Serves answer) :
    let prepared := Session.prepare (Session.fresh world) operations
    let finished := (run release prepared.1).result prepared.2
    (finished.1, finished.2.store) = Operation.directAll answer prepared.2.store prepared.1 ∧
      finished.2.device.Serves answer := by
  intro prepared finished
  have ready : prepared.2.device.isOpen := opened
  have still : prepared.2.device.Serves answer := serves
  obtain ⟨selected, toggled, store, selectedOpen, selectedServes⟩ :=
    ChipSelect.toggle_served ready still
  have inside : ∀ operation ∈ prepared.1, operation.Within selected.store :=
    store ▸ Session.prepare_within world operations
  obtain ⟨outcome, worked, ran, meant, workedOpen, workedServes⟩ :=
    Operation.runAll_served selectedOpen selectedServes inside
  rw [store] at meant
  rw [meant]
  have unfolded : finished = (bracketed release (Operation.runAll prepared.1)).result prepared.2 :=
    rfl
  cases outcome with
  | ok _ =>
      obtain ⟨after, closed, same, -, afterServes⟩ :=
        ChipSelect.toggle_served workedOpen workedServes
      rw [unfolded, result_bracketed_of_ok toggled ran, closed, ← same]
      exact ⟨rfl, afterServes⟩
  | error raised =>
      rw [unfolded, result_bracketed_of_error toggled ran]
      by_cases released : (release && raised.failure.isOrdinary) = true
      · obtain ⟨after, freed, same, afterServes⟩ := release_served workedOpen workedServes
        rw [if_pos released, freed, ← same]
        exact ⟨rfl, afterServes⟩
      · rw [if_neg released]
        exact ⟨rfl, workedServes⟩

/-- An emulated bridge in front of a peripheral that inverts every bit, and one buffer. -/
def inverted : World where
  device := .emulated
    { behaviour := { peripheral := some .inverting, echoTerminator := Frame.lineTerminator } }
  store := [(.named "a", [1, 2, 3, 4])]

/-- Three operations on views of one buffer, of which the first two overlap. -/
theorem refines_inverted :
    let prepared := Session.prepare (Session.fresh inverted)
      [.transfer (.slice "a" (some 1) (some 3)) (.slice "a" none (some 2)),
        .inPlace (.slice "a" none (some 2)), .read (.slice "a" (some 2) (some 3))]
    let finished := (run true prepared.1).result prepared.2
    inverted.device.isOpen ∧ inverted.device.Serves (List.map (· ^^^ 0xFF)) ∧
      finished.1 = .ok () ∧ finished.2.store = [(.named "a", [0xFE, 1, 0xFF, 4])] := by
  intro prepared finished
  have serves : inverted.device.Serves (List.map (· ^^^ 0xFF)) :=
    ⟨_, rfl, ⟨rfl, .inr rfl, .inl rfl, fun _ => List.length_map _⟩, rfl⟩
  obtain ⟨meant, -⟩ := run_refines_directAll true inverted
    [.transfer (.slice "a" (some 1) (some 3)) (.slice "a" none (some 2)),
      .inPlace (.slice "a" none (some 2)), .read (.slice "a" (some 2) (some 3))] _ rfl serves
  have whole : (finished.1, finished.2.store) =
      (.ok (), [(.named "a", [0xFE, 1, 0xFF, 4])]) := meant.trans rfl
  exact ⟨rfl, serves, congrArg Prod.fst whole, congrArg Prod.snd whole⟩

end Transaction

end Hexwire
