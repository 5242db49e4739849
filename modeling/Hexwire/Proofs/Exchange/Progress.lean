import Hexwire.Proofs.Exchange.Dialogue

/-! # When an exchange succeeds

A device that takes a write and does not hold its queue back lets work on an open line succeed as
soon as the right answer is at the head of what it has queued. This holds for a scripted device
without faults and for an emulated bridge alike; with the dialogues it decides what was received and
what is left.
-/

namespace Hexwire

/-- No call of a script fails, and every read may return something. -/
def Script.Faultless (script : Script) : Prop :=
  (∀ call, script.onWrite call = none) ∧ (∀ call, script.onFlush call = none) ∧
    ∀ call, ∃ limit, script.onRead call = .give limit ∧ limit ≠ some 0

namespace Device

/-- The device lets a write of the given octets succeed. -/
def Accepts : Device → Bytes → Prop
  | scripted d, _ => d.script.Faultless
  | emulated e, data => ∃ answer, Emulator.answer e.behaviour data = .ok answer

/-- No read fails, and none returns nothing while there is something. -/
def Prompt : Device → Prop
  | scripted d => d.script.Faultless
  | emulated _ => True

variable {before after device : Device} {sent : List Bytes} {data : Bytes}

/-- A device that accepts more than it takes goes on accepting the rest. -/
theorem Took.accepts (took : before.Took sent after) (accepts : before.Accepts data) :
    after.Accepts data := by
  cases took with
  | scripted script _ _ _ => simpa only [Accepts, script] using accepts
  | emulated behaviour _ _ _ => simpa only [Accepts, behaviour] using accepts

/-- A prompt device stays prompt while it takes octets. -/
theorem Took.prompt (took : before.Took sent after) (prompt : before.Prompt) : after.Prompt := by
  cases took with
  | scripted script _ _ _ => simpa only [Prompt, script] using prompt
  | emulated _ _ _ _ => trivial

/-- A write of accepted data succeeds. -/
theorem Accepts.write (accepts : device.Accepts data) : (device.write data).1 = .ok () := by
  cases device with
  | scripted d => simp [Device.write, ScriptedDevice.write, accepts.1 d.writes]
  | emulated e =>
      obtain ⟨⟨octets, toggled⟩, answered⟩ := accepts
      simp only [Device.write, Emulator.write, answered]
      rfl

/-- A flush succeeds on a device that accepts data. -/
theorem Accepts.flush (accepts : device.Accepts data) : device.flush.1 = .ok () := by
  cases device with
  | scripted d => simp [Device.flush, ScriptedDevice.flush, accepts.2.1 d.flushes]
  | emulated e => rfl

/-- A read on a prompt device succeeds, and yields octets if there are any. -/
theorem Prompt.read (prompt : device.Prompt) {count : Nat} (wanted : 0 < count) :
    ∃ segment, (device.read count).1 = .ok segment ∧ (device.queue ≠ [] → segment ≠ []) := by
  cases device with
  | scripted d =>
      obtain ⟨limit, plan, allowed⟩ := prompt.2.2 d.reads
      obtain ⟨size, -, positive, read⟩ := read_of_give plan count
      refine ⟨d.queue.take size, by simp only [Device.read, read], ?_⟩
      intro queued nothing
      rw [List.take_eq_nil_iff] at nothing
      have room := positive allowed wanted
      rcases nothing with zero | empty
      · omega
      · exact queued empty
  | emulated e =>
      refine ⟨e.queue.take count, ?_, ?_⟩
      · simp only [Device.read, Emulator.read, cutAt_ofNat]
      · intro queued nothing
        rw [List.take_eq_nil_iff] at nothing
        rcases nothing with zero | empty
        · omega
        · exact queued empty

end Device

namespace Line

variable {world : World}

/-- Accepted data is sent. -/
theorem send_succeeds (opened : world.device.isOpen) {data : Bytes}
    (accepts : world.device.Accepts data) :
    ∃ after, (send data).result world = (.ok (), after) := by
  have flushed := ((world.device.write_talked data).took.accepts accepts).flush
  rw [result_send opened]
  simp only [accepts.write, flushed]
  exact ⟨_, rfl⟩

/-- What is at the head of the queue is collected, however the reads cut it up, and no sleep is
requested. The induction is on the count that is still missing. -/
theorem collect_prompt (count : Nat) (world : World) (prompt : world.device.Prompt) :
    ∃ after, (collect count).result world = (.ok (world.device.queue.take count), after) ∧
      after.sleeps = world.sleeps := by
  induction count using Nat.strongRecOn generalizing world with
  | ind count ih =>
      rw [collect]
      by_cases done : count = 0
      · simp only [done, ↓reduceIte, List.take_zero]
        exact ⟨_, rfl, rfl⟩
      · simp only [done, ↓reduceIte]
        obtain ⟨received, outcome, middle, ran, talk, -, returned⟩ := read_dialogue world count
        obtain ⟨segment, read, present⟩ := prompt.read (Nat.pos_of_ne_zero done)
        have awake : middle.sleeps = world.sleeps := by
          rw [Action.result_read] at ran
          exact (congrArg World.sleeps (congrArg Prod.snd ran)).symm
        have outcomeEq : outcome = .ok segment := by
          rw [Action.result_read, read] at ran
          exact (congrArg Prod.fst ran).symm
        subst outcomeEq
        obtain ⟨rfl, bounded⟩ := returned segment rfl
        have gave := talk.talked.gave
        rw [Device.answers_nil, List.append_nil] at gave
        rw [Action.result_bind_of_ok ran]
        by_cases nothing : segment.length = 0
        · have empty : world.device.queue = [] := Decidable.byContradiction fun queued =>
            present queued (List.eq_nil_of_length_eq_zero nothing)
          simp only [nothing, ↓reduceIte, empty, List.take_nil]
          exact ⟨middle, rfl, awake⟩
        · simp only [nothing, ↓reduceIte]
          obtain ⟨after, continued, same⟩ :=
            ih (count - segment.length) (by omega) middle (talk.talked.took.prompt prompt)
          refine ⟨after, ?_, same.trans awake⟩
          rw [Action.result_bind_of_ok continued, Action.result_pure, gave, List.take_append,
            List.take_of_length_le bounded]

/-- **Receiving from a prompt device.** The head of the queue is taken, as far as it reaches; that
is what is received when it is all that was asked for, and too late otherwise. -/
theorem receive_prompt (opened : world.device.isOpen) (prompt : world.device.Prompt)
    (count : Nat) :
    ∃ outcome after, (receive count).result world = (outcome, after) ∧
      outcome = (if world.device.queue.length < count then
          .error (Failure.ofBridge .timeout (some ("Received " ++
            toString world.device.queue.length ++ " of " ++ toString count ++ " bytes within " ++
            toString timeout ++ " ms"))).raised
        else .ok (world.device.queue.take count)) ∧
      world.device.Took [] after.device ∧
      after.device.queue = world.device.queue.drop count ∧ after.store = world.store ∧
      after.sleeps = world.sleeps := by
  obtain ⟨middle, ran, awake⟩ := collect_prompt count world prompt
  obtain ⟨received, outcome, middle', ran', talk, store, returned⟩ := collect_dialogue count world
  rw [ran] at ran'
  cases ran'
  obtain ⟨rfl, -⟩ := returned _ rfl
  have left : middle.device.queue = world.device.queue.drop count := by
    have gave := talk.talked.gave
    rw [Device.answers_nil, List.append_nil] at gave
    exact List.append_cancel_left (gave.symm.trans (List.take_append_drop count _).symm)
  rw [result_receive opened, Int.toNat_natCast, ran]
  by_cases few : world.device.queue.length < count
  · have short : ((world.device.queue.take count).length : Int) < count := by
      rw [List.length_take]
      omega
    have whole : world.device.queue.take count = world.device.queue :=
      List.take_of_length_le (by omega)
    simp only [short, few, ↓reduceIte]
    refine ⟨_, middle, rfl, ?_, talk.talked.took, left, store, awake⟩
    rw [whole]
    rfl
  · have long : ¬ ((world.device.queue.take count).length : Int) < count := by
      rw [List.length_take]
      omega
    simp only [long, few, ↓reduceIte]
    exact ⟨_, _, rfl, rfl, talk.talked.took, left, store, awake⟩

/-- What is at the head of the queue is received. -/
theorem receive_succeeds (opened : world.device.isOpen) (prompt : world.device.Prompt)
    {wanted rest : Bytes} (queued : world.device.queue = wanted ++ rest) :
    ∃ after, (receive wanted.length).result world = (.ok wanted, after) := by
  obtain ⟨outcome, after, ran, decided, -⟩ := receive_prompt opened prompt wanted.length
  have enough : ¬ world.device.queue.length < wanted.length := by
    rw [queued, List.length_append]
    omega
  rw [if_neg enough, queued, List.take_left] at decided
  exact ⟨after, ran.trans (congrArg (·, after) decided)⟩

/-- A send that succeeds leaves what was queued and the answer to it, on a device that is as open,
as prompt and as accepting as before; it touches no buffer and requests no sleep. -/
theorem exists_sent (opened : world.device.isOpen) {data : Bytes}
    (accepts : world.device.Accepts data) (prompt : world.device.Prompt) :
    ∃ middle, (send data).result world = (.ok (), middle) ∧ middle.device.isOpen ∧
      middle.device.Prompt ∧
        middle.device.queue = world.device.queue ++ world.device.answers [data] ∧
          world.device.Took [data] middle.device ∧ middle.store = world.store ∧
            middle.sleeps = world.sleeps := by
  obtain ⟨middle, sent⟩ := send_succeeds opened accepts
  obtain ⟨outcome, middle', ran, talk, store⟩ := send_dialogue opened data
  have awake : middle.sleeps = world.sleeps := by
    have result := congrArg Prod.snd sent
    rw [result_send opened] at result
    dsimp only at result
    split at result <;> exact (congrArg World.sleeps result).symm
  rw [sent] at ran
  cases ran
  exact ⟨middle, sent, talk.isOpen opened, talk.talked.took.prompt prompt,
    talk.talked.gave.symm, talk.talked.took, store, awake⟩

/-- A command succeeds when its answer is at the head of what is queued. -/
theorem command_succeeds (opened : world.device.isOpen) {request expected rest : Bytes}
    (accepts : world.device.Accepts request) (prompt : world.device.Prompt)
    (queued : world.device.queue ++ world.device.answers [request] = expected ++ rest) :
    ∃ after, (command request expected).result world = (.ok (), after) := by
  obtain ⟨middle, sent, stillOpen, stillPrompt, queue, -⟩ := exists_sent opened accepts prompt
  obtain ⟨after, heard⟩ := receive_succeeds stillOpen stillPrompt (queue.trans queued)
  refine ⟨after, ?_⟩
  unfold command
  rw [Action.result_bind_of_ok sent, Action.result_bind_of_ok heard]
  simp only [↓reduceIte, Action.result_pure]

end Line

/-- A toggle succeeds when the acknowledgement is at the head of what is queued, and leaves the
rest. -/
theorem ChipSelect.toggle_succeeds {world : World} (opened : world.device.isOpen)
    (accepts : world.device.Accepts chipSelectCommand) (prompt : world.device.Prompt) {rest : Bytes}
    (queued : world.device.queue ++ world.device.answers [chipSelectCommand] =
      acknowledgement ++ rest) :
    ∃ after, toggle.result world = (.ok (), after) ∧ after.store = world.store ∧
      after.device.queue = rest ∧ world.device.Took [chipSelectCommand] after.device := by
  have noted : { world with events := world.events ++ [Event.toggling] }.device.isOpen := opened
  obtain ⟨after, ran⟩ := Line.command_succeeds noted accepts prompt queued
  have toggled : toggle.result world = (.ok (), after) := ran
  obtain ⟨talk, store⟩ := toggle_acknowledged opened toggled
  have gave := talk.talked.gave
  rw [queued] at gave
  exact ⟨after, toggled, store, (List.append_cancel_left gave).symm, talk.talked.took⟩

namespace Exchange

variable {world : World} {data echo answer rest : Bytes}

/-- A payload that fits is exchanged for another of its size when an echo that carries the other is
at the head of what is queued. -/
theorem payload_answered (opened : world.device.isOpen) (fits : data.length ≤ Frame.maxPayload)
    (accepts : ∀ frame ∈ frames data, world.device.Accepts frame) (prompt : world.device.Prompt)
    (answers : Answers data.length echo answer)
    (queued : world.device.queue ++ world.device.answers (frames data) = echo ++ rest) :
    ∃ after, (payload data).result world = (.ok answer, after) := by
  by_cases empty : data = []
  · subst empty
    exact ⟨world, by rw [payload_nil, answers.2, Action.result_pure]⟩
  · have sized : data.length ≠ 0 := fun zero => empty (List.eq_nil_of_length_eq_zero zero)
    simp only [Answers, sized, ↓reduceIte] at answers
    obtain ⟨equal, echoes⟩ := answers
    have length : echo.length = (Frame.encode data).length := by
      rw [echoes.length, Frame.length_encode, equal]
    rw [frames_of_fits empty fits] at accepts queued
    obtain ⟨middle, sent, stillOpen, stillPrompt, queue, -⟩ :=
      Line.exists_sent opened (accepts _ List.mem_cons_self) prompt
    have rested : { middle with sleeps := middle.sleeps ++ [settleTime] }.device.isOpen := stillOpen
    obtain ⟨after, heard⟩ := Line.receive_succeeds rested stillPrompt (queue.trans queued)
    have read : ofEcho echo data.length = .ok answer :=
      (ofEcho_eq_ok_iff (echoes.length.trans (by rw [equal])) fits).mpr ⟨equal, echoes⟩
    rw [length] at heard
    rw [payload_of_fits empty fits, Action.result_bind_of_ok sent, awaitEcho,
      Action.result_bind_of_ok (Action.result_sleep _ _), Action.result_bind_of_ok heard]
    simp only [read]
    exact ⟨_, rfl⟩

/-- **Progress of an exchange.** An exchange that is answered leaves the rest of what is queued, and
the buffers as they were. -/
theorem payload_succeeds (opened : world.device.isOpen) (fits : data.length ≤ Frame.maxPayload)
    (accepts : ∀ frame ∈ frames data, world.device.Accepts frame) (prompt : world.device.Prompt)
    (answers : Answers data.length echo answer)
    (queued : world.device.queue ++ world.device.answers (frames data) = echo ++ rest) :
    ∃ after, (payload data).result world = (.ok answer, after) ∧ after.store = world.store ∧
      after.device.queue = rest ∧ world.device.Took (frames data) after.device := by
  obtain ⟨after, ran⟩ := payload_answered opened fits accepts prompt answers queued
  obtain ⟨heard, _, after', ran', talk, store, returned⟩ := payload_dialogue opened data
  rw [ran] at ran'
  cases ran'
  have equal : echo.length = heard.length := by
    rw [answers.length_received, (returned answer rfl).2.length_received]
  exact ⟨after, ran, store, (List.append_inj (queued.symm.trans talk.talked.gave) equal).2.symm,
    talk.talked.took⟩

end Exchange

end Hexwire
