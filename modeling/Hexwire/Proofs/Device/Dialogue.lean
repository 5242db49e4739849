import Hexwire.Device.Basic
import Hexwire.Proofs.Failure.Ordinary

/-! # What a device takes and gives

Between two states a device has taken a list of writes and has given octets to the reader. A write
that fails is taken as well, although a scripted device does not record it. An emulated bridge
queues an answer for each write, a scripted device none; whatever is queued is given in order and
nothing else is (`Hexwire.Device.Talked`). The relation is composed call by call.
-/

namespace Hexwire

/-- The octets that an event hands to a write of the device. -/
def Event.handed? : Event → Option Bytes
  | sending data => some data
  | _ => none

/-- The octets handed to writes of the device so far, call by call. -/
def World.handed (world : World) : List Bytes := world.events.filterMap Event.handed?

/-- The writes among the given ones that are recorded when the first is the given call. -/
def Script.recorded (script : Script) : Nat → List Bytes → List Bytes
  | _, [] => []
  | call, data :: rest =>
    match script.onWrite call with
    | some _ => script.recorded (call + 1) rest
    | none => data :: script.recorded (call + 1) rest

/-- What a script records of writes in a row is what it records of each stretch. -/
theorem Script.recorded_append (script : Script) (call : Nat) (first second : List Bytes) :
    script.recorded call (first ++ second) =
      script.recorded call first ++ script.recorded (call + first.length) second := by
  induction first generalizing call with
  | nil => rfl
  | cons data rest ih =>
      have shifted : call + (data :: rest).length = call + 1 + rest.length := by
        rw [List.length_cons]
        omega
      rw [List.cons_append, recorded, recorded, ih, shifted]
      split <;> rfl

namespace Emulator.Behaviour

/-- The octets that a bridge queues for a write; none for one that fails. -/
def queued (behaviour : Behaviour) (data : Bytes) : Bytes :=
  match answer behaviour data with
  | .ok (octets, _) => octets
  | .error _ => []

end Emulator.Behaviour

namespace ScriptedDevice

variable {d : ScriptedDevice} {raised : Raised}

/-- A write fails only as the script has it. -/
theorem onWrite_of_error {data : Bytes} (failed : (d.write data).1 = .error raised) :
    d.script.onWrite d.writes = some raised.failure := by
  unfold write at failed
  cases fault : d.script.onWrite d.writes with
  | none => simp [fault] at failed
  | some failure =>
      simp only [fault, Except.error.injEq] at failed
      rw [← failed, Failure.failure_raised]

/-- A read fails only as the script has it. -/
theorem onRead_of_error {count : Nat} (failed : (d.read count).1 = .error raised) :
    d.script.onRead d.reads = .fail raised.failure := by
  unfold read at failed
  cases plan : d.script.onRead d.reads with
  | give limit => simp [plan] at failed
  | fail failure =>
      simp only [plan, Except.error.injEq] at failed
      rw [← failed, Failure.failure_raised]

/-- A flush fails only as the script has it. -/
theorem onFlush_of_error (failed : d.flush.1 = .error raised) :
    d.script.onFlush d.flushes = some raised.failure := by
  unfold flush at failed
  cases fault : d.script.onFlush d.flushes with
  | none => simp [fault] at failed
  | some failure =>
      simp only [fault, Except.error.injEq] at failed
      rw [← failed, Failure.failure_raised]

end ScriptedDevice

namespace Device

/-- The octets that a device queues for writes. -/
def answers : Device → List Bytes → Bytes
  | scripted _, _ => []
  | emulated e, sent => sent.flatMap e.behaviour.queued

/-- A device has taken writes: it behaves as before and is as open as before, a scripted device has
counted the calls and recorded those that do not fail, and an emulated bridge has recorded all and
counted the toggles among them. -/
inductive Took : Device → List Bytes → Device → Prop where
  | scripted {d after : ScriptedDevice} {sent : List Bytes}
      (script : after.script = d.script) (isOpen : after.isOpen = d.isOpen)
      (writes : after.writes = d.writes + sent.length)
      (written : after.written = d.written ++ d.script.recorded d.writes sent) :
      Took (.scripted d) sent (.scripted after)
  | emulated {e after : Emulator} {sent : List Bytes}
      (behaviour : after.behaviour = e.behaviour) (isOpen : after.isOpen = e.isOpen)
      (written : after.written = e.written ++ sent)
      (toggles : after.toggles = e.toggles + sent.count chipSelectCommand) :
      Took (.emulated e) sent (.emulated after)

/-- A device has taken writes and given octets: what was queued and what the writes were answered
is what was given and what is still queued. -/
structure Talked (before : Device) (sent : List Bytes) (received : Bytes) (after : Device) :
    Prop where
  took : before.Took sent after
  gave : before.queue ++ before.answers sent = received ++ after.queue

/-- No call of a device fails with anything but an ordinary failure. -/
def FailsOrdinarily : Device → Prop
  | scripted d =>
    (∀ call failure, d.script.onWrite call = some failure → failure.isOrdinary) ∧
      (∀ call failure, d.script.onRead call = .fail failure → failure.isOrdinary) ∧
      ∀ call failure, d.script.onFlush call = some failure → failure.isOrdinary
  | emulated e =>
    ∀ peripheral, e.behaviour.peripheral = some peripheral →
      ∀ payload failure, peripheral payload = .error failure → failure.isOrdinary

variable {before middle after : Device} {sent more : List Bytes} {received others : Bytes}

/-- A device that is left alone takes nothing. -/
theorem Took.refl (device : Device) : device.Took [] device := by
  cases device with
  | scripted d => exact .scripted rfl rfl rfl (List.append_nil _).symm
  | emulated e => exact .emulated rfl rfl (List.append_nil _).symm rfl

/-- What is taken in two stretches is taken in one. -/
theorem Took.trans (first : before.Took sent middle) (second : middle.Took more after) :
    before.Took (sent ++ more) after := by
  cases first with
  | scripted script isOpen writes written =>
      cases second with
      | scripted script' isOpen' writes' written' =>
          refine .scripted (script'.trans script) (isOpen'.trans isOpen) ?_ ?_
          · rw [writes', writes, List.length_append, Nat.add_assoc]
          · rw [written', written, script, writes, Script.recorded_append, List.append_assoc]
  | emulated behaviour isOpen written toggles =>
      cases second with
      | emulated behaviour' isOpen' written' toggles' =>
          refine .emulated (behaviour'.trans behaviour) (isOpen'.trans isOpen) ?_ ?_
          · rw [written', written, List.append_assoc]
          · rw [toggles', toggles, List.count_append, Nat.add_assoc]

/-- Taking octets neither opens nor closes a device. -/
theorem Took.isOpen (took : before.Took sent after) : after.isOpen = before.isOpen := by
  cases took with
  | scripted _ isOpen _ _ => exact isOpen
  | emulated _ isOpen _ _ => exact isOpen

/-- A device that has taken octets still answers as before. -/
theorem Took.answers (took : before.Took sent after) (more : List Bytes) :
    after.answers more = before.answers more := by
  cases took with
  | scripted _ _ _ _ => rfl
  | emulated behaviour _ _ _ => simp only [Device.answers, behaviour]

/-- A device that fails with ordinary failures goes on doing so. -/
theorem Took.failsOrdinarily (took : before.Took sent after)
    (ordinary : before.FailsOrdinarily) : after.FailsOrdinarily := by
  cases took with
  | scripted script _ _ _ => simpa only [FailsOrdinarily, script] using ordinary
  | emulated behaviour _ _ _ => simpa only [FailsOrdinarily, behaviour] using ordinary

/-- The answers to writes in a row follow each other. -/
theorem answers_append (device : Device) (sent more : List Bytes) :
    device.answers (sent ++ more) = device.answers sent ++ device.answers more := by
  cases device with
  | scripted d => rfl
  | emulated e => exact List.flatMap_append

/-- Nothing is answered to no writes. -/
@[simp]
theorem answers_nil (device : Device) : device.answers [] = [] := by
  cases device <;> rfl

namespace Talked

theorem refl (device : Device) : device.Talked [] [] device :=
  ⟨Took.refl device, by rw [answers_nil, List.append_nil, List.nil_append]⟩

theorem trans (first : before.Talked sent received middle)
    (second : middle.Talked more others after) :
    before.Talked (sent ++ more) (received ++ others) after := by
  refine ⟨first.took.trans second.took, ?_⟩
  calc before.queue ++ before.answers (sent ++ more)
      = received ++ middle.queue ++ before.answers more := by
        rw [answers_append, ← List.append_assoc, first.gave]
    _ = received ++ (middle.queue ++ middle.answers more) := by
        rw [first.took.answers, List.append_assoc]
    _ = received ++ others ++ after.queue := by rw [second.gave, List.append_assoc]

end Talked

/-- Only the chip-select command is answered as a toggle. -/
theorem answer_toggled {behaviour : Emulator.Behaviour} {data octets : Bytes} {toggled : Bool}
    (answered : Emulator.answer behaviour data = .ok (octets, toggled)) :
    toggled = decide (data = chipSelectCommand) := by
  unfold Emulator.answer at answered
  by_cases toggle : data = chipSelectCommand
  · simp only [toggle, ↓reduceIte, Except.ok.injEq, Prod.mk.injEq] at answered
    simp only [toggle, decide_true, ← answered.2]
  · simp only [toggle, ↓reduceIte] at answered
    repeat' split at answered
    all_goals simp_all

/-- A write is taken whether it fails or not. -/
theorem write_talked (device : Device) (data : Bytes) :
    device.Talked [data] [] (device.write data).2 := by
  cases device with
  | scripted d =>
      cases fault : d.script.onWrite d.writes <;>
        simp only [Device.write, ScriptedDevice.write, fault]
      · exact ⟨.scripted rfl rfl rfl (by simp [Script.recorded, fault]), List.append_nil _⟩
      · exact ⟨.scripted rfl rfl rfl (by simp [Script.recorded, fault]), List.append_nil _⟩
  | emulated e =>
      rcases answered : Emulator.answer e.behaviour data with failure | ⟨octets, toggled⟩
      · have quiet : data ≠ chipSelectCommand := by
          rintro rfl
          cases answered
        simp only [Device.write, Emulator.write, answered]
        refine ⟨.emulated rfl rfl rfl ?_, ?_⟩
        · rw [List.count_singleton, beq_eq_false_iff_ne.mpr quiet]
          rfl
        · simp [Device.queue, Device.answers, Emulator.Behaviour.queued, answered]
      · have toggle := answer_toggled answered
        simp only [Device.write, Emulator.write, answered]
        refine ⟨.emulated rfl rfl rfl ?_, ?_⟩
        · by_cases same : data = chipSelectCommand <;> simp [toggle, same]
        · simp [Device.queue, Device.answers, Emulator.Behaviour.queued, answered]

/-- A read that does not fail returns the head of the queue, of at most the size asked for, and
something where there is something and the script does not hold it back. -/
theorem read_of_give {d : ScriptedDevice} {limit : Option Nat}
    (plan : d.script.onRead d.reads = .give limit) (count : Nat) :
    ∃ size, size ≤ count ∧ (limit ≠ some 0 → 0 < count → 0 < size) ∧
      d.read count = (.ok (d.queue.take size),
        { d with reads := d.reads + 1, queue := d.queue.drop size }) := by
  cases limit with
  | none =>
      refine ⟨count, Nat.le_refl _, ?_, by simp [ScriptedDevice.read, plan]⟩
      intro _ wanted
      exact wanted
  | some most =>
      refine ⟨min count most, Nat.min_le_left _ _, ?_, by simp [ScriptedDevice.read, plan]⟩
      intro allowed wanted
      have positive : most ≠ 0 := fun zero => allowed (congrArg some zero)
      omega

/-- A read takes no write and gives what it returns, or nothing when it fails. -/
theorem read_talked (device : Device) (count : Nat) :
    ∃ received, device.Talked [] received (device.read count).2 ∧
      ∀ segment, (device.read count).1 = .ok segment →
        segment = received ∧ segment.length ≤ count := by
  cases device with
  | scripted d =>
      cases plan : d.script.onRead d.reads with
      | fail failure =>
          refine ⟨[], ?_, ?_⟩ <;> simp only [Device.read, ScriptedDevice.read, plan]
          · exact ⟨.scripted rfl rfl rfl (List.append_nil _).symm, List.append_nil _⟩
          · rintro segment ⟨⟩
      | give limit =>
          obtain ⟨size, bounded, -, read⟩ := read_of_give plan count
          refine ⟨d.queue.take size, ?_, ?_⟩ <;> simp only [Device.read, read]
          · refine ⟨.scripted rfl rfl rfl (List.append_nil _).symm, ?_⟩
            rw [answers_nil, List.append_nil]
            exact (List.take_append_drop size d.queue).symm
          · rintro segment ⟨⟩
            exact ⟨rfl, Nat.le_trans (List.length_take_le _ _) bounded⟩
  | emulated e =>
      refine ⟨(cutAt e.queue count).1, ?_, ?_⟩ <;> simp only [Device.read, Emulator.read]
      · refine ⟨.emulated rfl rfl (List.append_nil _).symm rfl, ?_⟩
        rw [answers_nil, List.append_nil]
        exact (cutAt_append e.queue count).symm
      · rintro segment ⟨⟩
        refine ⟨rfl, ?_⟩
        rw [cutAt_ofNat]
        exact List.length_take_le _ _

/-- A flush takes no write and gives nothing. -/
theorem flush_talked (device : Device) : device.Talked [] [] device.flush.2 := by
  cases device with
  | scripted d =>
      cases fault : d.script.onFlush d.flushes <;>
        simp only [Device.flush, ScriptedDevice.flush, fault]
      · exact ⟨.scripted rfl rfl rfl (List.append_nil _).symm, List.append_nil _⟩
      · exact ⟨.scripted rfl rfl rfl (List.append_nil _).symm, List.append_nil _⟩
  | emulated e => exact Talked.refl _

namespace FailsOrdinarily

variable {device : Device} {raised : Raised}

/-- A write that fails on such a device fails with an ordinary failure. -/
theorem write (ordinary : device.FailsOrdinarily) {data : Bytes}
    (failed : (device.write data).1 = .error raised) : raised.failure.isOrdinary := by
  cases device with
  | scripted d => exact ordinary.1 _ _ (ScriptedDevice.onWrite_of_error failed)
  | emulated e =>
      rcases answered : Emulator.answer e.behaviour data with failure | ⟨octets, toggled⟩
      · simp only [Device.write, Emulator.write, answered, Except.map, Except.error.injEq] at failed
        subst failed
        exact Emulator.isOrdinary_of_answer_error ordinary answered
      · simp [Device.write, Emulator.write, answered, Except.map] at failed

/-- A read that fails on such a device fails with an ordinary failure. -/
theorem read (ordinary : device.FailsOrdinarily) {count : Nat}
    (failed : (device.read count).1 = .error raised) : raised.failure.isOrdinary := by
  cases device with
  | scripted d => exact ordinary.2.1 _ _ (ScriptedDevice.onRead_of_error failed)
  | emulated e => cases failed

/-- A flush that fails on such a device fails with an ordinary failure. -/
theorem flush (ordinary : device.FailsOrdinarily)
    (failed : device.flush.1 = .error raised) : raised.failure.isOrdinary := by
  cases device with
  | scripted d => exact ordinary.2.2 _ _ (ScriptedDevice.onFlush_of_error failed)
  | emulated e => cases failed

end FailsOrdinarily

end Device

end Hexwire
