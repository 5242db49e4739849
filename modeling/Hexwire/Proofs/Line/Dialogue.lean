import Hexwire.ChipSelect
import Hexwire.Proofs.Action
import Hexwire.Proofs.Device.Dialogue

/-! # What sending and receiving leave behind

Whatever a device does, work on an open line leaves a dialogue behind: the writes that the device
was handed and the octets that were taken from its queue (`Hexwire.Dialogue`). Sending hands over
one write, receiving none, and a toggle of chip select one; octets received are the next octets of
the queue. Dialogues of consecutive steps are joined, and the failure of a step is ordinary when the
failures of the device are.
-/

namespace Hexwire

/-- From one world to another writes were handed over and octets were received, with the outcome of
the work in between. -/
structure Dialogue {α : Type} (before : World) (sent : List Bytes) (received : Bytes)
    (outcome : Except Raised α) (after : World) : Prop where
  talked : before.device.Talked sent received after.device
  handed : after.handed = before.handed ++ sent
  ordinary : before.device.FailsOrdinarily →
    ∀ raised, outcome = .error raised → raised.failure.isOrdinary

namespace Dialogue

variable {α β : Type} {before middle after later : World} {sent more : List Bytes}
  {received others : Bytes} {outcome : Except Raised α}

/-- A value on its own needs no talk. -/
theorem silent (world : World) (value : α) : Dialogue world [] [] (.ok value) world :=
  ⟨Device.Talked.refl _, (List.append_nil _).symm, by rintro _ _ ⟨⟩⟩

/-- An ordinary refusal needs no talk. -/
theorem refused (world : World) {raised : Raised} (ordinary : raised.failure.isOrdinary) :
    Dialogue world [] [] (.error raised : Except Raised α) world := by
  refine ⟨Device.Talked.refl _, (List.append_nil _).symm, ?_⟩
  rintro _ _ ⟨⟩
  exact ordinary

/-- A dialogue is continued by another, whatever the first ended with. -/
theorem trans {ended : Except Raised β} (first : Dialogue before sent received ended middle)
    (second : Dialogue middle more others outcome after) :
    Dialogue before (sent ++ more) (received ++ others) outcome after where
  talked := first.talked.trans second.talked
  handed := by rw [second.handed, first.handed, List.append_assoc]
  ordinary := fun ordinary => second.ordinary (first.talked.took.failsOrdinarily ordinary)

/-- A dialogue with another outcome, and with a later world that differs in neither the device nor
what was handed to it. -/
theorem congr {changed : Except Raised β} (dialogue : Dialogue before sent received outcome after)
    (device : later.device = after.device) (handed : later.handed = after.handed)
    (ordinary : before.device.FailsOrdinarily →
      ∀ raised, changed = .error raised → raised.failure.isOrdinary) :
    Dialogue before sent received changed later := by
  refine ⟨?_, handed.trans dialogue.handed, ordinary⟩
  rw [device]
  exact dialogue.talked

/-- The failure of a step is the failure of the work. -/
theorem stop {raised : Raised}
    (dialogue : Dialogue before sent received (.error raised : Except Raised α) after) :
    Dialogue before sent received (.error raised : Except Raised β) after :=
  dialogue.congr rfl rfl fun ordinary _ same =>
    dialogue.ordinary ordinary _ (congrArg _ (Except.error.inj same))

/-- A dialogue leaves an open device open. -/
theorem isOpen (dialogue : Dialogue before sent received outcome after)
    (opened : before.device.isOpen) : after.device.isOpen := by
  rw [dialogue.talked.took.isOpen]
  exact opened

end Dialogue

namespace Line

/-- An ordinary failure of the host comes out as an ordinary one. -/
theorem isOrdinary_ofHost {raised : Raised} (ordinary : raised.failure.isOrdinary) :
    (ofHost raised).failure.isOrdinary := by
  unfold ofHost
  split
  · simp only [ioFailure, Failure.failure_raisedFrom, Failure.isOrdinary_ofBridge]
  · exact ordinary

/-- An ordinary failure of a write comes out as an ordinary one. -/
theorem isOrdinary_ofHostWrite {raised : Raised} (ordinary : raised.failure.isOrdinary) :
    (ofHostWrite raised).failure.isOrdinary := by
  unfold ofHostWrite
  split
  · simp only [Failure.failure_raisedFrom, Failure.isOrdinary_ofBridge]
  · exact isOrdinary_ofHost ordinary

variable {world : World}

/-- An open line passes the check that it is open. -/
theorem result_requireOpen (opened : world.device.isOpen) (description : String) :
    (requireOpen description).result world = (.ok (), world) := by
  unfold requireOpen isOpen
  simp only [Action.result_bind, Action.result_get, Action.result_pure, opened, ↓reduceIte]

/-- Sending on an open line is a write and, if the write does not fail, a flush. -/
theorem result_send (opened : world.device.isOpen) (data : Bytes) :
    (send data).result world =
      let wrote := world.device.write data
      let events := world.events ++ .sending data :: Action.told world.device (.emulatorTook data)
      match wrote.1 with
      | .error raised =>
        (.error (ofHostWrite raised), { world with device := wrote.2, events := events })
      | .ok _ =>
        (wrote.2.flush.1.mapError ofHostWrite,
          { world with device := wrote.2.flush.2, events := events }) := by
  unfold send
  rw [Action.result_bind_of_ok (result_requireOpen opened _),
    Action.result_bind_of_ok (Action.result_note _ _), Action.result_adapt, Action.result_bind,
    Action.result_write]
  simp only [List.append_assoc, List.singleton_append]
  cases (world.device.write data).1 with
  | error raised => rfl
  | ok _ => simp only [Action.result_onDevice]

/-- A send hands its octets to one write, whether it succeeds or not. -/
theorem send_dialogue (opened : world.device.isOpen) (data : Bytes) :
    ∃ outcome after, (send data).result world = (outcome, after) ∧
      Dialogue world [data] [] outcome after ∧ after.store = world.store := by
  have wrote := world.device.write_talked data
  have flushed := wrote.trans ((world.device.write data).2.flush_talked)
  have handed : (world.events ++ .sending data ::
      Action.told world.device (.emulatorTook data)).filterMap Event.handed? =
        world.handed ++ [data] := by
    cases world.device <;> simp [World.handed, Action.told, Event.handed?]
  rw [result_send opened]
  dsimp only
  cases outcome : (world.device.write data).1 with
  | error raised =>
      refine ⟨_, _, rfl, ⟨wrote, handed, ?_⟩, rfl⟩
      rintro ordinary _ ⟨⟩
      exact isOrdinary_ofHostWrite (ordinary.write outcome)
  | ok _ =>
      refine ⟨_, _, rfl, ⟨flushed, handed, ?_⟩, rfl⟩
      intro ordinary raised failed
      cases flush : (world.device.write data).2.flush.1 with
      | error cause =>
          rw [flush] at failed
          cases failed
          exact isOrdinary_ofHostWrite ((wrote.took.failsOrdinarily ordinary).flush flush)
      | ok _ =>
          rw [flush] at failed
          cases failed

/-- One read hands nothing over and receives what it returns. -/
theorem read_dialogue (world : World) (count : Nat) :
    ∃ received outcome after, (Action.read count).result world = (outcome, after) ∧
      Dialogue world [] received outcome after ∧ after.store = world.store ∧
        ∀ segment, outcome = .ok segment → segment = received ∧ segment.length ≤ count := by
  obtain ⟨received, talked, returned⟩ := world.device.read_talked count
  refine ⟨received, _, _, Action.result_read count world, ⟨talked, ?_, ?_⟩, rfl, returned⟩
  · cases (world.device.read count).1 with
    | error raised => exact (List.append_nil _).symm
    | ok segment =>
        cases (world.device.read count).2 <;> simp [World.handed, Action.told, Event.handed?]
  · intro ordinary raised failed
    exact ordinary.read failed

/-- Collecting receives the next octets of the queue, at most as many as are asked for. The
induction is on the count that is still missing. -/
theorem collect_dialogue (count : Nat) (world : World) :
    ∃ received outcome after, (collect count).result world = (outcome, after) ∧
      Dialogue world [] received outcome after ∧ after.store = world.store ∧
        ∀ data, outcome = .ok data → data = received ∧ data.length ≤ count := by
  induction count using Nat.strongRecOn generalizing world with
  | ind count ih =>
      rw [collect]
      by_cases done : count = 0
      · simp only [done, ↓reduceIte]
        refine ⟨[], _, _, rfl, Dialogue.silent _ _, rfl, ?_⟩
        rintro data ⟨⟩
        exact ⟨rfl, Nat.le_refl _⟩
      · simp only [done, ↓reduceIte]
        obtain ⟨first, outcome, middle, ran, talk, store, returned⟩ := read_dialogue world count
        cases outcome with
        | error raised =>
            refine ⟨first, _, _, Action.result_bind_of_error ran _, talk.stop, store, ?_⟩
            rintro data ⟨⟩
        | ok segment =>
            obtain ⟨rfl, bounded⟩ := returned segment rfl
            rw [Action.result_bind_of_ok ran]
            by_cases empty : segment.length = 0
            · simp only [empty, ↓reduceIte]
              have nothing := List.eq_nil_of_length_eq_zero empty
              subst nothing
              refine ⟨[], _, _, rfl, talk.congr rfl rfl (by rintro _ _ ⟨⟩), store, ?_⟩
              rintro data ⟨⟩
              exact ⟨rfl, Nat.zero_le _⟩
            · simp only [empty, ↓reduceIte]
              obtain ⟨rest, outcome, after, continued, more, same, others⟩ :=
                ih (count - segment.length) (by omega) middle
              have joined := talk.trans more
              cases outcome with
              | error raised =>
                  refine ⟨segment ++ rest, _, _, Action.result_bind_of_error continued _,
                    joined.stop, same.trans store, ?_⟩
                  rintro data ⟨⟩
              | ok others' =>
                  obtain ⟨rfl, short⟩ := others others' rfl
                  refine ⟨segment ++ others', _, _, Action.result_bind_of_ok continued _,
                    joined.congr rfl rfl (by rintro _ _ ⟨⟩), same.trans store, ?_⟩
                  rintro data ⟨⟩
                  rw [List.length_append]
                  exact ⟨rfl, by omega⟩

/-- Receiving on an open line collects and then judges the size of what was collected. -/
theorem result_receive (opened : world.device.isOpen) (count : Int) :
    (receive count).result world =
      match (collect count.toNat).result world with
      | (.error raised, after) => (.error (ofHost raised), after)
      | (.ok data, after) =>
        if (data.length : Int) < count then
          (.error (Failure.ofBridge .timeout (some ("Received " ++ toString data.length ++ " of " ++
            toString count ++ " bytes within " ++ toString timeout ++ " ms"))).raised, after)
        else (.ok data, { after with events := after.events ++ [.received data] }) := by
  unfold receive
  rw [Action.result_bind_of_ok (result_requireOpen opened _), Action.result_bind,
    Action.result_adapt]
  rcases (collect count.toNat).result world with ⟨raised | data, after⟩
  · rfl
  · change (if (data.length : Int) < count then _ else _ : Action Bytes).result after = _
    dsimp only
    split <;> rfl

/-- What is received is the next octets of the queue, exactly as many as are asked for. -/
theorem receive_dialogue (opened : world.device.isOpen) (count : Nat) :
    ∃ received outcome after, (receive count).result world = (outcome, after) ∧
      Dialogue world [] received outcome after ∧ after.store = world.store ∧
        ∀ data, outcome = .ok data → data = received ∧ data.length = count := by
  obtain ⟨received, outcome, after, ran, talk, store, returned⟩ := collect_dialogue count world
  rw [result_receive opened, Int.toNat_natCast, ran]
  cases outcome with
  | error raised =>
      refine ⟨received, _, _, rfl, talk.congr rfl rfl ?_, store, by rintro _ ⟨⟩⟩
      rintro ordinary _ ⟨⟩
      exact isOrdinary_ofHost (talk.ordinary ordinary raised rfl)
  | ok data =>
      obtain ⟨same, bounded⟩ := returned data rfl
      by_cases short : (data.length : Int) < count
      · simp only [short, ↓reduceIte]
        refine ⟨received, _, _, rfl, talk.congr rfl rfl ?_, store, by rintro _ ⟨⟩⟩
        rintro - _ ⟨⟩
        exact Failure.isOrdinary_raised_ofBridge _ _
      · simp only [short, ↓reduceIte]
        refine ⟨received, _, _, rfl, talk.congr rfl ?_ (by rintro - _ ⟨⟩), store, ?_⟩
        · simp [World.handed, Event.handed?]
        · rintro _ ⟨⟩
          exact ⟨same, by omega⟩

/-- A command hands over one write and, when it succeeds, has received the expected answer. -/
theorem command_dialogue (opened : world.device.isOpen) (request expected : Bytes) :
    ∃ received outcome after, (command request expected).result world = (outcome, after) ∧
      Dialogue world [request] received outcome after ∧ after.store = world.store ∧
        (outcome = .ok () → received = expected) := by
  unfold command
  obtain ⟨outcome, middle, ran, talk, store⟩ := send_dialogue opened request
  cases outcome with
  | error raised =>
      exact ⟨[], _, _, Action.result_bind_of_error ran _, talk.stop, store, by rintro ⟨⟩⟩
  | ok _ =>
      rw [Action.result_bind_of_ok ran]
      obtain ⟨received, outcome, after, heard, more, same, returned⟩ :=
        receive_dialogue (talk.isOpen opened) expected.length
      have joined := talk.trans more
      cases outcome with
      | error raised =>
          exact ⟨received, _, _, Action.result_bind_of_error heard _, joined.stop,
            same.trans store, by rintro ⟨⟩⟩
      | ok answer =>
          obtain ⟨rfl, -⟩ := returned answer rfl
          rw [Action.result_bind_of_ok heard]
          by_cases right : answer = expected
          · simp only [right, ↓reduceIte]
            refine ⟨answer, _, _, rfl, joined.congr rfl rfl (by rintro - _ ⟨⟩),
              same.trans store, fun _ => right⟩
          · simp only [right, ↓reduceIte]
            refine ⟨answer, _, _, rfl, joined.congr rfl rfl ?_, same.trans store, by rintro ⟨⟩⟩
            rintro - _ ⟨⟩
            exact Failure.isOrdinary_raised_ofBridge _ _

end Line

/-- A toggle hands over the chip-select command and, when it succeeds, has received the
acknowledgement. -/
theorem ChipSelect.toggle_dialogue {world : World} (opened : world.device.isOpen) :
    ∃ received outcome after, toggle.result world = (outcome, after) ∧
      Dialogue world [chipSelectCommand] received outcome after ∧ after.store = world.store ∧
        (outcome = .ok () → received = acknowledgement) := by
  have noted : { world with events := world.events ++ [Event.toggling] }.device.isOpen := opened
  obtain ⟨received, outcome, after, ran, talk, store, returned⟩ :=
    Line.command_dialogue noted chipSelectCommand acknowledgement
  refine ⟨received, outcome, after, ran, ⟨talk.talked, ?_, talk.ordinary⟩, store, returned⟩
  rw [talk.handed]
  simp [World.handed, Event.handed?]

/-- A toggle that succeeds has received the acknowledgement. -/
theorem ChipSelect.toggle_acknowledged {world after : World} (opened : world.device.isOpen)
    (toggled : toggle.result world = (.ok (), after)) :
    Dialogue world [chipSelectCommand] acknowledgement (.ok () : Except Raised Unit) after ∧
      after.store = world.store := by
  obtain ⟨received, outcome, after', ran, talk, store, acknowledged⟩ := toggle_dialogue opened
  rw [toggled] at ran
  cases ran
  rw [acknowledged rfl] at talk
  exact ⟨talk, store⟩

end Hexwire
