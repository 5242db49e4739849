import Hexwire.Proofs.Exchange.Verdict
import Hexwire.Proofs.Line.Dialogue

/-! # The reads that receiving makes

A read asks a device for a count of octets and brings octets or fails (`Hexwire.Reading`). While
octets are missing, receiving asks for exactly these; it ends as soon as none are missing or a read
brings nothing or fails (`Hexwire.Line.Gathers`). Whatever the device does, the reads that are made
take the head of its queue and nothing else (`Hexwire.Line.receives_next`).
-/

namespace Hexwire

/-- A read of a device: the count that it asked for and what became of it. -/
structure Reading where
  asked : Nat
  outcome : Except Raised Bytes

namespace Reading

/-- The octets that a read brought. -/
def octets (reading : Reading) : Bytes :=
  match reading.outcome with
  | .ok segment => segment
  | .error _ => []

/-- The octets that reads brought, one read after the other. -/
def taken (readings : List Reading) : Bytes := readings.flatMap octets

/-- What is taken starts with what the first reading gives. -/
theorem taken_cons (reading : Reading) (readings : List Reading) :
    taken (reading :: readings) = reading.octets ++ taken readings := rfl

/-- A reading that succeeds gives what was read. -/
theorem octets_ok (asked : Nat) (segment : Bytes) : octets ⟨asked, .ok segment⟩ = segment := rfl

/-- Reads all bring something, or one of them brings nothing or fails. -/
theorem full_or_dry_or_failed (readings : List Reading) :
    (∀ reading ∈ readings, reading.octets ≠ []) ∨ (∃ asked, ⟨asked, .ok []⟩ ∈ readings) ∨
      ∃ asked raised, ⟨asked, .error raised⟩ ∈ readings := by
  by_cases some : ∃ reading ∈ readings, reading.octets = []
  · obtain ⟨⟨asked, outcome⟩, member, nothing⟩ := some
    cases outcome with
    | ok segment =>
        obtain rfl : segment = [] := nothing
        exact .inr (.inl ⟨asked, member⟩)
    | error raised => exact .inr (.inr ⟨asked, raised, member⟩)
  · exact .inl fun reading member nothing => some ⟨reading, member, nothing⟩

end Reading

open Reading

/-- As many items go as were taken. -/
theorem drop_length_take {α : Type} (size : Nat) (items : List α) :
    items.drop (items.take size).length = items.drop size := by
  rw [List.length_take]
  obtain short | long := Nat.le_total size items.length
  · rw [Nat.min_eq_left short]
  · rw [Nat.min_eq_right long, List.drop_length, List.drop_eq_nil_of_le long]

namespace Device

/-- Reads, one after the other, lead from one state of a device to another. -/
inductive Reads : Device → List Reading → Device → Prop where
  | nil (device : Device) : Reads device [] device
  | cons {device after : Device} {asked : Nat} {readings : List Reading}
      (rest : Reads (device.read asked).2 readings after) :
      Reads device (⟨asked, (device.read asked).1⟩ :: readings) after

/-- A device that has made some reads, which took octets off the head of its queue. -/
def drained : Device → Nat → Nat → Device
  | scripted d, reads, size =>
    scripted { d with reads := d.reads + reads, queue := d.queue.drop size }
  | emulated e, _, size => emulated { e with queue := e.queue.drop size }

variable {device after : Device} {readings : List Reading}

/-- A device from which nothing is drained is left alone. -/
theorem drained_zero (device : Device) : device.drained 0 0 = device := by
  cases device <;> rfl

/-- Draining twice drains both amounts. -/
theorem drained_drained (device : Device) (reads size more further : Nat) :
    (device.drained reads size).drained more further =
      device.drained (reads + more) (size + further) := by
  cases device <;> simp only [drained, List.drop_drop, Nat.add_assoc]

/-- Draining takes the first octets of the queue. -/
theorem queue_drained (device : Device) (reads size : Nat) :
    (device.drained reads size).queue = device.queue.drop size := by
  cases device <;> rfl

/-- A read takes what it brings off the head of the queue, at most what it asked for. -/
theorem read_drained (device : Device) (asked : Nat) :
    ∃ outcome, device.read asked = (outcome, device.drained 1 (octets ⟨asked, outcome⟩).length) ∧
      octets ⟨asked, outcome⟩ = device.queue.take (octets ⟨asked, outcome⟩).length ∧
        (octets ⟨asked, outcome⟩).length ≤ asked := by
  have head (size : Nat) (queue : Bytes) :
      queue.take size = queue.take (queue.take size).length := by
    rw [List.length_take, List.take_eq_take_min]
  cases device with
  | scripted d =>
      cases plan : d.script.onRead d.reads with
      | fail failure =>
          refine ⟨.error failure.raised, ?_, rfl, Nat.zero_le _⟩
          simp only [Device.read, ScriptedDevice.read, plan]
          rfl
      | give limit =>
          obtain ⟨size, bounded, -, read⟩ := read_of_give plan asked
          refine ⟨.ok (d.queue.take size), ?_, head _ _, ?_⟩
          · simp only [Device.read, read, drained, octets_ok, drop_length_take]
          · exact Nat.le_trans (List.length_take_le _ _) bounded
  | emulated e =>
      refine ⟨.ok (e.queue.take asked), ?_, head _ _, List.length_take_le _ _⟩
      simp only [Device.read, Emulator.read, cutAt_ofNat, drained, octets_ok, drop_length_take]

/-- Reads take what they bring off the head of the queue. -/
theorem Reads.drained_eq (reads : device.Reads readings after) :
    after = device.drained readings.length (taken readings).length ∧
      taken readings = device.queue.take (taken readings).length := by
  induction reads with
  | nil device => exact ⟨(drained_zero device).symm, rfl⟩
  | @cons device after asked readings _ ih =>
      obtain ⟨outcome, read, head, -⟩ := read_drained device asked
      rw [read] at ih ⊢
      obtain ⟨rest, next⟩ := ih
      rw [queue_drained] at next
      refine ⟨?_, ?_⟩
      · rw [rest, drained_drained, taken_cons, List.length_cons, List.length_append,
          Nat.add_comm 1]
      · rw [taken_cons, List.length_append, List.take_add, ← head, ← next]

/-- What was queued has been taken or is still queued. -/
theorem Reads.queue_eq (reads : device.Reads readings after) :
    device.queue = taken readings ++ after.queue := by
  obtain ⟨drained, head⟩ := reads.drained_eq
  calc device.queue
      = device.queue.take (taken readings).length ++
          device.queue.drop (taken readings).length := (List.take_append_drop _ _).symm
    _ = taken readings ++ after.queue := by rw [← head, drained, queue_drained]

end Device

namespace Line

/-- The reads that are made while octets are missing, and what they come to: a read that brings
nothing or fails is the last. -/
inductive Gathers : Nat → List Reading → Except Raised Bytes → Prop where
  | whole : Gathers 0 [] (.ok [])
  | last {missing : Nat} {outcome : Except Raised Bytes} (wanted : missing ≠ 0)
      (nothing : octets ⟨missing, outcome⟩ = []) : Gathers missing [⟨missing, outcome⟩] outcome
  | more {missing : Nat} {segment : Bytes} {readings : List Reading}
      {outcome : Except Raised Bytes} (some : segment ≠ []) (bounded : segment.length ≤ missing)
      (rest : Gathers (missing - segment.length) readings outcome) :
      Gathers missing (⟨missing, .ok segment⟩ :: readings) (outcome.map (segment ++ ·))

namespace Gathers

variable {missing : Nat} {readings : List Reading} {outcome : Except Raised Bytes}

/-- Each read brings one octet at least, or is the last one. -/
theorem length_le (gathers : Gathers missing readings outcome) :
    readings.length ≤ missing ∧ (taken readings).length ≤ missing := by
  induction gathers with
  | whole => exact ⟨Nat.le_refl 0, Nat.le_refl 0⟩
  | last wanted nothing =>
      rw [taken_cons, nothing]
      exact ⟨Nat.pos_of_ne_zero wanted, Nat.zero_le _⟩
  | more some bounded _ ih =>
      have progress := List.length_pos_iff.mpr some
      rw [List.length_cons, taken_cons, octets_ok, List.length_append]
      omega

/-- Each read asks for what the reads before it have left missing, and none follows a read that
brings nothing. -/
theorem asked_eq (gathers : Gathers missing readings outcome) {earlier later : List Reading}
    {reading : Reading} (split : readings = earlier ++ reading :: later) :
    reading.asked + (taken earlier).length = missing ∧ (later ≠ [] → reading.octets ≠ []) := by
  induction gathers generalizing earlier with
  | whole => cases earlier <;> cases split
  | last wanted nothing =>
      cases earlier with
      | nil =>
          cases split
          exact ⟨rfl, fun further => absurd rfl further⟩
      | cons first earlier => cases earlier <;> cases split
  | more some bounded rest ih =>
      cases earlier with
      | nil =>
          cases split
          exact ⟨rfl, fun _ => some⟩
      | cons first earlier =>
          cases split
          obtain ⟨asked, further⟩ := ih rfl
          refine ⟨?_, further⟩
          rw [taken_cons, octets_ok, List.length_append]
          omega

/-- Reads that all bring something bring all that is missing. -/
theorem of_full (gathers : Gathers missing readings outcome)
    (full : ∀ reading ∈ readings, reading.octets ≠ []) :
    outcome = .ok (taken readings) ∧ (taken readings).length = missing := by
  induction gathers with
  | whole => exact ⟨rfl, rfl⟩
  | last wanted nothing => exact absurd nothing (full _ List.mem_cons_self)
  | more some bounded rest ih =>
      obtain ⟨rfl, sized⟩ := ih fun reading member => full reading (List.mem_cons_of_mem _ member)
      refine ⟨rfl, ?_⟩
      rw [taken_cons, octets_ok, List.length_append]
      omega

/-- A read that brings nothing leaves some octets missing. -/
theorem of_dry (gathers : Gathers missing readings outcome) {asked : Nat}
    (dry : ⟨asked, .ok []⟩ ∈ readings) :
    outcome = .ok (taken readings) ∧ (taken readings).length < missing := by
  induction gathers with
  | whole => cases dry
  | last wanted nothing =>
      cases List.mem_singleton.mp dry
      exact ⟨rfl, Nat.pos_of_ne_zero wanted⟩
  | more some bounded rest ih =>
      obtain same | dry := List.mem_cons.mp dry
      · cases same
        exact absurd rfl some
      · obtain ⟨rfl, short⟩ := ih dry
        refine ⟨rfl, ?_⟩
        rw [taken_cons, octets_ok, List.length_append]
        omega

/-- A read that fails fails the whole. -/
theorem of_failed (gathers : Gathers missing readings outcome) {asked : Nat} {raised : Raised}
    (failed : ⟨asked, .error raised⟩ ∈ readings) : outcome = .error raised := by
  induction gathers with
  | whole => cases failed
  | last wanted nothing =>
      cases List.mem_singleton.mp failed
      rfl
  | more some bounded rest ih =>
      obtain same | failed := List.mem_cons.mp failed
      · cases same
      · rw [ih failed]
        rfl

end Gathers

variable {world : World}

/-- Work has changed no buffer, has not slept and has handed nothing to the device. -/
structure Listened (before after : World) : Prop where
  store : after.store = before.store
  sleeps : after.sleeps = before.sleeps
  handed : after.handed = before.handed

/-- Listening to nothing changes nothing. -/
theorem Listened.refl (world : World) : Listened world world := ⟨rfl, rfl, rfl⟩

/-- Listening twice is listening. -/
theorem Listened.trans {before middle after : World} (first : Listened before middle)
    (second : Listened middle after) : Listened before after :=
  ⟨second.store.trans first.store, second.sleeps.trans first.sleeps,
    second.handed.trans first.handed⟩

/-- A read is listening to the device, and ends as the device says. -/
theorem read_listened (world : World) (asked : Nat) :
    ∃ after, (Action.read asked).result world = ((world.device.read asked).1, after) ∧
      after.device = (world.device.read asked).2 ∧ Listened world after := by
  refine ⟨_, Action.result_read asked world, rfl, rfl, rfl, ?_⟩
  cases (world.device.read asked).1 with
  | error raised => rfl
  | ok segment =>
      cases (world.device.read asked).2 <;> simp [World.handed, Action.told, Event.handed?]

/-- Collecting gathers what is missing from the device. The induction is on the count that is still
missing. -/
theorem collect_gathers (count : Nat) (world : World) :
    ∃ readings outcome after, (collect count).result world = (outcome, after) ∧
      world.device.Reads readings after.device ∧ Gathers count readings outcome ∧
        Listened world after := by
  induction count using Nat.strongRecOn generalizing world with
  | ind count ih =>
      rw [collect]
      by_cases done : count = 0
      · rw [if_pos done, done]
        exact ⟨[], _, _, rfl, .nil _, .whole, .refl _⟩
      · rw [if_neg done]
        obtain ⟨middle, ran, device, listened⟩ := read_listened world count
        obtain ⟨brought, read, -, bounded⟩ := world.device.read_drained count
        have outcome : (world.device.read count).1 = brought := congrArg Prod.fst read
        have one {readings : List Reading} {after : Device}
            (rest : middle.device.Reads readings after) :
            world.device.Reads (⟨count, brought⟩ :: readings) after := by
          rw [← outcome]
          rw [device] at rest
          exact .cons rest
        rw [outcome] at ran
        cases brought with
        | error raised =>
            exact ⟨_, _, _, Action.result_bind_of_error ran _, one (.nil _), .last done rfl,
              listened⟩
        | ok segment =>
            rw [Action.result_bind_of_ok ran]
            by_cases empty : segment.length = 0
            · rw [if_pos empty]
              obtain rfl := List.eq_nil_of_length_eq_zero empty
              exact ⟨_, _, _, rfl, one (.nil _), .last done rfl, listened⟩
            · rw [if_neg empty]
              have some : segment ≠ [] := fun nothing => empty (congrArg List.length nothing)
              obtain ⟨readings, outcome, after, continued, reads, gathers, further⟩ :=
                ih (count - segment.length) (by omega) middle
              -- The further reads start at the device as this read has left it.
              refine ⟨_, _, after, ?_, one reads, .more some bounded gathers,
                listened.trans further⟩
              cases outcome with
              | error raised => exact Action.result_bind_of_error continued _
              | ok others => exact Action.result_bind_of_ok continued _

/-- The failure of receiving fewer octets than were asked for. -/
def tooFew (received : Nat) (count : Int) : Failure :=
  .bridge .timeout (some ("Received " ++ toString received ++ " of " ++ toString count ++
    " bytes within 500 ms"))

/-- No failure of a read is translated to a timeout: one of the transport would be a failure of the
host as well, and gives way to one of the line. -/
theorem ofHost_ne_timeout (raised : Raised) (text : Option String) (cause : Option Failure) :
    ofHost raised ≠ ⟨.bridge .timeout text, cause⟩ := by
  intro same
  unfold ofHost at same
  split at same
  · obtain ⟨shown, io⟩ := Failure.ofBridge_eq .io (some raised.failure.message)
    have transport := congrArg Raised.failure same
    rw [Failure.failure_raisedFrom, ioFailure, io] at transport
    cases transport
  · next foreign =>
      rw [same] at foreign
      exact foreign rfl

/-- What receiving makes of what was collected. -/
def judged (count : Int) : Except Raised Bytes → Except Raised Bytes
  | .error raised => .error (ofHost raised)
  | .ok data => if data.length < count then .error (tooFew data.length count).raised else .ok data

/-- Receiving gathers readings and judges what was gathered. -/
theorem receive_gathers (opened : world.device.isOpen) (count : Int) :
    ∃ readings gathered after, (receive count).result world = (judged count gathered, after) ∧
      world.device.Reads readings after.device ∧ Gathers count.toNat readings gathered ∧
        Listened world after := by
  obtain ⟨readings, gathered, after, ran, reads, gathers, listened⟩ :=
    collect_gathers count.toNat world
  rw [result_receive opened, ran]
  refine ⟨readings, gathered, ?_⟩
  cases gathered with
  | error raised => exact ⟨after, rfl, reads, gathers, listened⟩
  | ok data =>
      dsimp only [judged]
      split
      · have filled (rest : String) : rest ++ " ms" ≠ "" := by simp
        rw [Failure.ofBridge_of_ne (filled _)]
        refine ⟨after, ?_, reads, gathers, listened⟩
        simp only [tooFew, String.append_assoc]
        rfl
      · have noted : Listened after { after with events := after.events ++ [.received data] } :=
          ⟨rfl, rfl, by simp [World.handed, Event.handed?]⟩
        exact ⟨_, rfl, reads, gathers, listened.trans noted⟩

/-- **Receiving takes the next octets and never more.** Each read of an open line asks for what is
still missing, so there are at most as many reads, and octets taken, as octets are asked for; what
is taken is the head of the queue, in order. If every read brings something, exactly what was asked
for is returned; a read that brings nothing ends in a timeout that names what was taken before; a
read that fails ends in the failure it is translated to, which is never a timeout. So a timeout
tells that a read has brought nothing. -/
theorem receives_next (opened : world.device.isOpen) (count : Int) :
    ∃ readings outcome after, (receive count).result world = (outcome, after) ∧
      world.device.Reads readings after.device ∧
      readings.length ≤ count.toNat ∧ (taken readings).length ≤ count.toNat ∧
      (∀ earlier reading later, readings = earlier ++ reading :: later →
        reading.asked + (taken earlier).length = count.toNat ∧
          (later ≠ [] → reading.octets ≠ [])) ∧
      world.device.queue = taken readings ++ after.device.queue ∧
      after.device = world.device.drained readings.length (taken readings).length ∧
      ((∀ reading ∈ readings, reading.octets ≠ []) →
        outcome = .ok (world.device.queue.take count.toNat) ∧
          (taken readings).length = count.toNat) ∧
      (∀ asked, ⟨asked, .ok []⟩ ∈ readings → (taken readings).length < count ∧
        outcome = .error (tooFew (taken readings).length count).raised) ∧
      (∀ asked raised, ⟨asked, .error raised⟩ ∈ readings → outcome = .error (ofHost raised)) ∧
      (∀ text cause, outcome = .error ⟨.bridge .timeout text, cause⟩ →
        ∃ asked, ⟨asked, .ok []⟩ ∈ readings) ∧
      Listened world after := by
  obtain ⟨readings, gathered, after, ran, reads, gathers, listened⟩ := receive_gathers opened count
  obtain ⟨drained, head⟩ := reads.drained_eq
  obtain ⟨calls, most⟩ := gathers.length_le
  refine ⟨readings, _, after, ran, reads, calls, most, fun _ _ _ => gathers.asked_eq, ?_, drained,
    ?_, ?_, ?_, ?_, listened⟩
  · rw [drained, Device.queue_drained]
    calc world.device.queue
        = world.device.queue.take (taken readings).length ++
            world.device.queue.drop (taken readings).length := (List.take_append_drop _ _).symm
      _ = taken readings ++ world.device.queue.drop (taken readings).length := by rw [← head]
  · intro full
    obtain ⟨rfl, whole⟩ := gathers.of_full full
    rw [← whole, ← head]
    exact ⟨if_neg (by omega), rfl⟩
  · intro asked dry
    obtain ⟨rfl, short⟩ := gathers.of_dry dry
    have few : ((taken readings).length : Int) < count := by omega
    exact ⟨few, if_pos few⟩
  · intro asked raised failed
    rw [gathers.of_failed failed]
    rfl
  · intro text cause timeout
    obtain full | dry | ⟨asked, raised, failed⟩ := full_or_dry_or_failed readings
    · obtain ⟨rfl, whole⟩ := gathers.of_full full
      have enough : ¬ ((taken readings).length : Int) < count := by omega
      rw [judged, if_neg enough] at timeout
      cases timeout
    · exact dry
    · rw [gathers.of_failed failed] at timeout
      exact absurd (Except.error.inj timeout) (ofHost_ne_timeout raised text cause)

/-- A device that gives two octets and then none although more are queued. -/
theorem receives_next_interrupted :
    let script : Script := ⟨none, fun _ => none,
      fun call => .give (some (if call = 0 then 2 else 0)), fun _ => none, fun _ => none⟩
    ∃ after, (receive 4).result ⟨.scripted ⟨script, [0x4F, 0x4B, 0x0D, 0x0A], true, [], 0, 0, 0, 0⟩,
        [], [], []⟩ = (.error (tooFew 2 4).raised, after) ∧ after.device.queue = [0x0D, 0x0A] := by
  intro script
  obtain ⟨readings, outcome, after, ran, reads, -, -, asked, queue, -, full, dry, -⟩ :=
    @receives_next ⟨.scripted ⟨script, [0x4F, 0x4B, 0x0D, 0x0A], true, [], 0, 0, 0, 0⟩, [], [], []⟩
      rfl 4
  refine ⟨after, ?_⟩
  generalize after.device = reached at reads queue ⊢
  cases reads with
  | nil => cases (full fun _ member => (List.not_mem_nil member).elim).2
  | @cons _ _ first _ rest =>
      obtain rfl : first = 4 := (asked [] _ _ rfl).1
      cases rest with
      | nil =>
          have nonempty : ∀ reading ∈ [Reading.mk 4 (.ok [0x4F, 0x4B])], reading.octets ≠ [] := by
            simp [octets_ok]
          cases (full nonempty).2
      | @cons _ _ second later _ =>
          obtain rfl : second = 2 := Nat.add_right_cancel (asked [_] _ _ rfl).1
          cases later with
          | nil =>
              obtain ⟨-, rfl⟩ := dry 2 (.tail _ (.head _))
              have left : [0x4F, 0x4B] ++ [0x0D, 0x0A] = [0x4F, 0x4B] ++ reached.queue := queue
              exact ⟨ran, (List.append_cancel_left left).symm⟩
          | cons _ _ => exact absurd rfl ((asked [_] _ _ rfl).2 (List.cons_ne_nil _ _))

end Line

end Hexwire
