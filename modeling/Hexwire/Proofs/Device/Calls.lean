import Hexwire.Proofs.Device.Dialogue
import Mathlib.Logic.Relation

/-! # Calls of a device, one after the other

A line makes five kinds of calls of its device. Calls lead a device from one state to another
(`Hexwire.Device.Leads`); if all of them succeed the way is untroubled
(`Hexwire.Device.Untroubled`), and a device is struck when calls that succeed are followed by one
that fails (`Hexwire.Device.Struck`). On an untroubled way a device has recorded every write that it
has taken (`Hexwire.Device.Untroubled.written`).
-/

namespace Hexwire

/-- A call that a line makes of its device. The flush that completes a write is not the same call as
a flush of its own. -/
inductive Device.Call where
  | write (data : Bytes)
  | settle
  | read (count : Nat)
  | flush
  | close

/-- The calls that sending and receiving make. -/
def Device.Call.isTalk : Device.Call → Bool
  | write _ | settle | read _ => true
  | flush | close => false

namespace Device

/-- What becomes of a call, and the device after it. -/
def perform (device : Device) : Call → Except Raised Unit × Device
  | .write data => device.write data
  | .settle => device.flush
  | .read count => ((device.read count).1.map fun _ => (), (device.read count).2)
  | .flush => device.flush
  | .close => device.close

/-- Calls lead from one state of a device to another, whether they succeed or not. -/
def Leads : Device → Device → Prop :=
  Relation.ReflTransGen fun before after => ∃ call, (before.perform call).2 = after

/-- Calls that all succeed lead from one state of a device to another. -/
def Untroubled : Device → Device → Prop :=
  Relation.ReflTransGen fun before after => ∃ call, before.perform call = (.ok (), after)

/-- Calls that succeed are followed by one that fails. -/
def Struck (before : Device) (call : Call) (fault : Raised) (after : Device) : Prop :=
  ∃ reached, before.Untroubled reached ∧ reached.perform call = (.error fault, after)

variable {before middle after device : Device} {call : Call} {fault : Raised} {sent : List Bytes}

/-- A call that succeeds is a calm way on its own. -/
theorem Untroubled.one (call : Call) (succeeded : before.perform call = (.ok (), after)) :
    before.Untroubled after := .single ⟨call, succeeded⟩

/-- A calm way leads where it ends. -/
theorem Untroubled.leads (calm : before.Untroubled after) : before.Leads after := by
  induction calm with
  | refl => exact .refl
  | tail _ step ih =>
      obtain ⟨call, succeeded⟩ := step
      exact ih.tail ⟨call, congrArg Prod.snd succeeded⟩

/-- A call that fails strikes on its own. -/
theorem Struck.one (call : Call) (failed : before.perform call = (.error fault, after)) :
    before.Struck call fault after := ⟨before, .refl, failed⟩

/-- A way that ends with a failed call leads where it ends. -/
theorem Struck.leads (struck : before.Struck call fault after) : before.Leads after := by
  obtain ⟨reached, calm, failed⟩ := struck
  exact calm.leads.tail ⟨call, congrArg Prod.snd failed⟩

/-- A device that is struck later on is struck. -/
theorem Struck.later (struck : middle.Struck call fault after) (calm : before.Untroubled middle) :
    before.Struck call fault after := by
  obtain ⟨reached, further, failed⟩ := struck
  exact ⟨reached, calm.trans further, failed⟩

/-- A call of a scripted device keeps its script. One that succeeds has counted the writes that it
makes, none of which the script lets fail. -/
theorem perform_scripted (d : ScriptedDevice) (call : Call) :
    ∃ after, ((scripted d).perform call).2 = .scripted after ∧ after.script = d.script ∧
      (((scripted d).perform call).1 = .ok () → d.writes ≤ after.writes ∧
        ∀ index, d.writes ≤ index → index < after.writes → d.script.onWrite index = none) := by
  have still {after : ScriptedDevice} (same : after.writes = d.writes) :
      d.writes ≤ after.writes ∧
        ∀ index, d.writes ≤ index → index < after.writes → d.script.onWrite index = none :=
    ⟨by omega, fun index _ _ => by omega⟩
  cases call with
  | write data =>
      cases planned : d.script.onWrite d.writes with
      | some failure =>
          simp only [perform, Device.write, ScriptedDevice.write, planned]
          exact ⟨_, rfl, rfl, by rintro ⟨⟩⟩
      | none =>
          simp only [perform, Device.write, ScriptedDevice.write, planned]
          refine ⟨_, rfl, rfl, fun _ => ⟨Nat.le_succ _, fun index first last => ?_⟩⟩
          have same : index = d.writes := by
            dsimp only at last
            omega
          rw [same, planned]
  | read count =>
      cases planned : d.script.onRead d.reads <;>
        simp only [perform, Device.read, ScriptedDevice.read, planned] <;>
        exact ⟨_, rfl, rfl, fun _ => still rfl⟩
  | close =>
      cases planned : d.script.onClose d.closes <;>
        simp only [perform, Device.close, ScriptedDevice.close, planned] <;>
        exact ⟨_, rfl, rfl, fun _ => still rfl⟩
  | _ =>
      cases planned : d.script.onFlush d.flushes <;>
        simp only [perform, Device.flush, ScriptedDevice.flush, planned] <;>
        exact ⟨_, rfl, rfl, fun _ => still rfl⟩

/-- A scripted device keeps its script along any way. -/
theorem Leads.script {d : ScriptedDevice} (leads : (scripted d).Leads device) :
    ∃ after, device = .scripted after ∧ after.script = d.script := by
  induction leads with
  | refl => exact ⟨d, rfl, rfl⟩
  | tail _ step ih =>
      obtain ⟨middle, rfl, script⟩ := ih
      obtain ⟨call, rfl⟩ := step
      obtain ⟨after, made, same, -⟩ := perform_scripted middle call
      exact ⟨after, made, same.trans script⟩

/-- A scripted device that is led without trouble has made no write that its script lets fail. -/
theorem Untroubled.onWrite {d : ScriptedDevice} (calm : (scripted d).Untroubled device) :
    ∃ after, device = .scripted after ∧ after.script = d.script ∧ d.writes ≤ after.writes ∧
      ∀ index, d.writes ≤ index → index < after.writes → d.script.onWrite index = none := by
  induction calm with
  | refl => exact ⟨d, rfl, rfl, Nat.le_refl _, fun index _ _ => by omega⟩
  | tail _ step ih =>
      obtain ⟨reached, rfl, script, counted, clear⟩ := ih
      obtain ⟨call, performed⟩ := step
      obtain ⟨after, made, kept, wrote⟩ := perform_scripted reached call
      rw [performed] at made wrote
      obtain ⟨more, later⟩ := wrote rfl
      refine ⟨after, made, kept.trans script, Nat.le_trans counted more, fun index first last => ?_⟩
      by_cases early : index < reached.writes
      · exact clear index first early
      · rw [← script]
        exact later index (Nat.le_of_not_lt early) last

/-- Writes that do not fail are all recorded. -/
theorem Script.recorded_eq_self {script : Script} {first : Nat} {sent : List Bytes}
    (clear : ∀ index, first ≤ index → index < first + sent.length → script.onWrite index = none) :
    script.recorded first sent = sent := by
  induction sent generalizing first with
  | nil => rfl
  | cons data rest ih =>
      rw [List.length_cons] at clear
      have now := clear first (Nat.le_refl _) (by omega)
      have later : script.recorded (first + 1) rest = rest :=
        ih fun index start stop => clear index (by omega) (by omega)
      simp only [Script.recorded, now, later]

/-- On an untroubled way every write is recorded. -/
theorem Untroubled.written (calm : before.Untroubled after) (took : before.Took sent after) :
    after.written = before.written ++ sent := by
  cases took with
  | emulated _ _ written _ => exact written
  | scripted _ _ writes written =>
      obtain ⟨reached, same, -, -, clear⟩ := calm.onWrite
      cases same
      rw [writes] at clear
      exact written.trans (congrArg _ (Script.recorded_eq_self clear))

end Device

/-- A script lets calls fail only with what satisfies a condition. -/
structure Script.FailsOnly (wanted : Failure → Prop) (script : Script) : Prop where
  onOpen : ∀ failure, script.onOpen = some failure → wanted failure
  onWrite : ∀ call failure, script.onWrite call = some failure → wanted failure
  onRead : ∀ call failure, script.onRead call = .fail failure → wanted failure
  onFlush : ∀ call failure, script.onFlush call = some failure → wanted failure
  onClose : ∀ call failure, script.onClose call = some failure → wanted failure

/-- A call of a scripted device fails with what its script lets it fail with. -/
theorem Script.FailsOnly.perform {wanted : Failure → Prop} {d : ScriptedDevice}
    {call : Device.Call} {fault : Raised} {after : Device} (only : d.script.FailsOnly wanted)
    (failed : (Device.scripted d).perform call = (.error fault, after)) :
    wanted fault.failure := by
  have outcome := congrArg Prod.fst failed
  cases call with
  | write data => exact only.onWrite _ _ (ScriptedDevice.onWrite_of_error outcome)
  | read count =>
      simp only [Device.perform, Device.read] at outcome
      rcases read : d.read count with ⟨raised | segment, later⟩
      · rw [read] at outcome
        cases outcome
        exact only.onRead _ _ (ScriptedDevice.onRead_of_error (congrArg Prod.fst read))
      · rw [read] at outcome
        cases outcome
  | close =>
      simp only [Device.perform, Device.close, ScriptedDevice.close] at outcome
      cases planned : d.script.onClose d.closes with
      | none =>
          rw [planned] at outcome
          cases outcome
      | some failure =>
          rw [planned] at outcome
          cases outcome
          exact only.onClose _ _ planned
  | _ => exact only.onFlush _ _ (ScriptedDevice.onFlush_of_error outcome)

end Hexwire
