import Hexwire.Proofs.Device.Calls
import Hexwire.Proofs.Line.Readings
import Hexwire.Proofs.Log.Wire

/-! # The course of work on a line

The course of work is made of what it sends and receives on a line; whatever else it does leaves the
wire alone (`Hexwire.Course`). On a course over a device that records its writes, the events tell
what went over the wire (`Hexwire.Course.wired`): the octets handed over are the writes, and the
octets received are those of the calls that succeeded, while the queue has also lost what the calls
that failed had taken.
-/

namespace Hexwire

/-- What became of receiving: all octets that were asked for, or a failure after some were taken. -/
inductive Hearing where
  | whole (data : Bytes)
  | broken (taken : Bytes) (raised : Raised)

namespace Hearing

/-- The outcome of receiving. -/
def outcome : Hearing → Except Raised Bytes
  | whole data => .ok data
  | broken _ raised => .error raised

/-- The octets that receiving has taken from the device. -/
def taken : Hearing → Bytes
  | whole data => data
  | broken taken _ => taken

/-- The octets of receiving that has succeeded. -/
def whole? : Hearing → Option Bytes
  | whole data => some data
  | broken _ _ => none

end Hearing

namespace Device

/-- A device that records all its writes. No write of a scripted one fails; an emulated bridge
records its writes even if they do. -/
def RecordsWrites : Device → Prop
  | scripted d => ∀ call, d.script.onWrite call = none
  | emulated _ => True

/-- A device that goes on as before has neither written nor lost or gained octets to be read. -/
inductive Still : Device → Device → Prop where
  | scripted {d after : ScriptedDevice} (script : after.script = d.script)
      (queue : after.queue = d.queue) (written : after.written = d.written) :
      Still (.scripted d) (.scripted after)
  | emulated {e after : Emulator} (behaviour : after.behaviour = e.behaviour)
      (queue : after.queue = e.queue) (written : after.written = e.written) :
      Still (.emulated e) (.emulated after)

variable {before middle after : Device} {sent more : List Bytes} {received others : Bytes}

/-- A device that is left alone is still. -/
theorem Still.refl (device : Device) : device.Still device := by
  cases device with
  | scripted d => exact .scripted rfl rfl rfl
  | emulated e => exact .emulated rfl rfl rfl

/-- A flush carries nothing. -/
theorem flush_still (device : Device) : device.Still device.flush.2 := by
  cases device with
  | scripted d =>
      simp only [flush, ScriptedDevice.flush]
      cases d.script.onFlush d.flushes with
      | some failure => exact .scripted rfl rfl rfl
      | none => exact .scripted rfl rfl rfl
  | emulated e => exact .emulated rfl rfl rfl

/-- Closing carries nothing. -/
theorem close_still (device : Device) : device.Still device.close.2 := by
  cases device with
  | scripted d =>
      simp only [close, ScriptedDevice.close]
      cases d.script.onClose d.closes with
      | some failure => exact .scripted rfl rfl rfl
      | none => exact .scripted rfl rfl rfl
  | emulated e => exact .emulated rfl rfl rfl

/-- Opening again carries nothing. -/
theorem reopen_still (device : Device) : device.Still device.reopen := by
  cases device with
  | scripted d => exact .scripted rfl rfl rfl
  | emulated e => exact .emulated rfl rfl rfl

/-- A device that records its writes has recorded some and has given octets: what was queued or
queued in answer was given or is still queued. -/
structure Carried (before : Device) (sent : List Bytes) (received : Bytes) (after : Device) :
    Prop where
  written : after.written = before.written ++ sent
  gave : before.queue ++ before.answers sent = received ++ after.queue
  answers : after.answers = before.answers
  records : after.RecordsWrites

/-- What is carried in two stretches is carried in one. -/
theorem Carried.trans (first : before.Carried sent received middle)
    (second : middle.Carried more others after) :
    before.Carried (sent ++ more) (received ++ others) after where
  written := by rw [second.written, first.written, List.append_assoc]
  gave := by
    calc before.queue ++ before.answers (sent ++ more)
        = received ++ middle.queue ++ before.answers more := by
          rw [answers_append, ← List.append_assoc, first.gave]
      _ = received ++ (middle.queue ++ middle.answers more) := by
          rw [first.answers, List.append_assoc]
      _ = received ++ others ++ after.queue := by rw [second.gave, List.append_assoc]
  answers := second.answers.trans first.answers
  records := second.records

/-- A still device carries nothing. -/
theorem Still.carried (still : before.Still after) (records : before.RecordsWrites) :
    before.Carried [] [] after := by
  cases still with
  | scripted script queue written =>
      refine ⟨written.trans (List.append_nil _).symm, ?_, rfl, fun call => script ▸ records call⟩
      rw [answers_nil, List.append_nil]
      exact queue.symm
  | emulated behaviour queue written =>
      refine ⟨written.trans (List.append_nil _).symm, ?_, ?_, trivial⟩
      · rw [answers_nil, List.append_nil]
        exact queue.symm
      · funext sent
        simp only [answers, behaviour]

/-- A talk carries what is sent and received in it. -/
theorem Talked.carried (talked : before.Talked sent received after)
    (records : before.RecordsWrites) : before.Carried sent received after := by
  obtain ⟨took, gave⟩ := talked
  have answers := funext took.answers
  cases took with
  | scripted script _ _ written =>
      rw [Script.recorded_eq_self fun call _ _ => records call] at written
      exact ⟨written, gave, answers, fun call => script ▸ records call⟩
  | emulated _ _ written _ => exact ⟨written, gave, answers, trivial⟩

/-- Readings carry what they take. -/
theorem Reads.carried {readings : List Reading} (reads : before.Reads readings after)
    (records : before.RecordsWrites) : before.Carried [] (Reading.taken readings) after := by
  have gave := reads.queue_eq
  obtain ⟨rfl, -⟩ := reads.drained_eq
  cases before with
  | scripted d => exact ⟨(List.append_nil _).symm, (List.append_nil _).trans gave, rfl, records⟩
  | emulated e => exact ⟨(List.append_nil _).symm, (List.append_nil _).trans gave, rfl, trivial⟩

end Device

/-- Octets were sent and others were heard between one world and another, and the events tell of
it. -/
structure Wired (before : World) (sent : List Bytes) (hearings : List Hearing) (after : World) :
    Prop where
  handed : after.handed = before.handed ++ sent
  heard : after.heard = before.heard ++ hearings.filterMap Hearing.whole?
  carried : before.device.Carried sent (hearings.flatMap Hearing.taken) after.device

/-- What goes over the wire in two stretches goes over it in one. -/
theorem Wired.trans {before middle after : World} {sent more : List Bytes}
    {hearings others : List Hearing} (first : Wired before sent hearings middle)
    (second : Wired middle more others after) :
    Wired before (sent ++ more) (hearings ++ others) after where
  handed := by rw [second.handed, first.handed, List.append_assoc]
  heard := by rw [second.heard, first.heard, List.filterMap_append, List.append_assoc]
  carried := by
    rw [List.flatMap_append]
    exact first.carried.trans second.carried

/-- Something has happened that leaves the wire alone and of which no event tells that octets were
sent or received. -/
structure Aside (before after : World) : Prop where
  still : before.device.Still after.device
  handed : after.handed = before.handed
  heard : after.heard = before.heard

/-- **The course of work:** one after the other, octets are sent and received on the line, and
things happen that leave the wire alone. -/
inductive Course : World → List Hearing → World → Prop where
  | done (world : World) : Course world [] world
  | aside {world middle after : World} {hearings : List Hearing} (aside : Aside world middle)
      (rest : Course middle hearings after) : Course world hearings after
  | send {world middle after : World} {hearings : List Hearing} {outcome : Except Raised Unit}
      (data : Bytes) (sent : (Line.send data).result world = (outcome, middle))
      (rest : Course middle hearings after) : Course world hearings after
  | receive {world middle after : World} {hearing : Hearing} {hearings : List Hearing}
      {readings : List Reading} (count : Int)
      (received : (Line.receive count).result world = (hearing.outcome, middle))
      (reads : world.device.Reads readings middle.device)
      (taken : hearing.taken = Reading.taken readings) (rest : Course middle hearings after) :
      Course world (hearing :: hearings) after

/-- What happens aside leaves the wire alone. -/
theorem Aside.wired {before after : World} (aside : Aside before after)
    (records : before.device.RecordsWrites) : Wired before [] [] after where
  handed := aside.handed.trans (List.append_nil _).symm
  heard := aside.heard.trans (List.append_nil _).symm
  carried := aside.still.carried records

/-- Nothing goes over the wire where nothing happens. -/
theorem Wired.refl {world : World} (records : world.device.RecordsWrites) :
    Wired world [] [] world :=
  Aside.wired ⟨.refl _, rfl, rfl⟩ records

namespace Line

variable {world middle : World}

/-- Sending adds nothing to what the log has heard. -/
theorem heard_send (data : Bytes) (world : World) :
    ((send data).result world).2.heard = world.heard := by
  by_cases opened : world.device.isOpen
  · have silent : (world.events ++ .sending data ::
        Action.told world.device (.emulatorTook data)).filterMap Event.heard? = world.heard := by
      cases world.device <;> simp [World.heard, Action.told, Event.heard?]
    rw [result_send opened]
    dsimp only
    split
    · exact silent
    · exact silent
  · rw [result_send_of_closed opened]

/-- A send is wired as one write, unless the line is closed. -/
theorem wired_send (records : world.device.RecordsWrites) {data : Bytes}
    {outcome : Except Raised Unit} (sent : (send data).result world = (outcome, middle)) :
    ∃ writes, Wired world writes [] middle := by
  have heard : middle.heard = world.heard := by
    rw [← heard_send data world, sent]
  by_cases opened : world.device.isOpen
  · obtain ⟨_, _, ran, dialogue, -⟩ := send_dialogue opened data
    rw [sent] at ran
    cases ran
    exact ⟨[data], dialogue.handed, heard.trans (List.append_nil _).symm,
      dialogue.talked.carried records⟩
  · rw [result_send_of_closed opened] at sent
    cases sent
    exact ⟨[], .refl records⟩

/-- A read adds nothing to what the log has heard by itself. -/
theorem heard_read (count : Nat) (world : World) :
    ((Action.read count).result world).2.heard = world.heard := by
  rw [Action.result_read]
  cases (world.device.read count).1 with
  | error raised => rfl
  | ok data =>
      cases (world.device.read count).2 <;> simp [World.heard, Action.told, Event.heard?]

/-- What is collected is not told before it is whole. -/
theorem heard_collect (count : Nat) (world : World) :
    ((collect count).result world).2.heard = world.heard := by
  induction count using Nat.strongRecOn generalizing world with
  | ind count ih =>
      have one := heard_read count world
      rw [collect]
      split
      · rfl
      · rw [Action.result_bind]
        rcases ran : (Action.read count).result world with ⟨raised | segment, reached⟩
        · rw [ran] at one
          exact one
        · rw [ran] at one
          dsimp only
          -- An empty segment ends the call, and any other leaves less to be collected.
          split
          · exact one
          · have rest := (ih (count - segment.length) (by omega) reached).trans one
            rw [Action.result_bind]
            rcases continued : (collect (count - segment.length)).result reached with
              ⟨raised | others, after⟩
            · rwa [continued] at rest
            · rwa [continued] at rest

/-- Receiving tells of the octets if it succeeds. -/
theorem heard_receive (count : Int) (world : World) :
    ((receive count).result world).2.heard =
      world.heard ++ ((receive count).result world).1.toOption.toList := by
  by_cases opened : world.device.isOpen
  · have collected := heard_collect count.toNat world
    rw [result_receive opened]
    rcases ran : (collect count.toNat).result world with ⟨raised | data, after⟩
    · rw [ran] at collected
      exact collected.trans (List.append_nil _).symm
    · rw [ran] at collected
      dsimp only
      split
      · exact collected.trans (List.append_nil _).symm
      · rw [← collected]
        exact List.filterMap_append
  · rw [receive, Action.result_bind_of_error (result_requireOpen_of_closed opened _)]
    exact (List.append_nil _).symm

/-- The outcome of what was collected tells what was taken. -/
theorem Gathers.of_ok {missing : Nat} {readings : List Reading} {data : Bytes}
    (gathers : Gathers missing readings (.ok data)) : data = Reading.taken readings := by
  obtain full | ⟨asked, dry⟩ | ⟨asked, raised, failed⟩ := Reading.full_or_dry_or_failed readings
  · exact Except.ok.inj (gathers.of_full full).1
  · exact Except.ok.inj (gathers.of_dry dry).1
  · cases gathers.of_failed failed

/-- What is made of what was collected is heard, whole or not. -/
theorem Gathers.exists_hearing {missing : Nat} {readings : List Reading}
    {gathered : Except Raised Bytes} (gathers : Gathers missing readings gathered) (count : Int) :
    ∃ hearing : Hearing, judged count gathered = hearing.outcome ∧
      hearing.taken = Reading.taken readings := by
  cases gathered with
  | error raised => exact ⟨.broken (Reading.taken readings) _, rfl, rfl⟩
  | ok data =>
      obtain rfl := gathers.of_ok
      dsimp only [judged]
      split
      · exact ⟨.broken _ _, rfl, rfl⟩
      · exact ⟨.whole _, rfl, rfl⟩

/-- Receiving hands nothing over. -/
theorem handed_receive (count : Int) (world : World) :
    ((receive count).result world).2.handed = world.handed := by
  by_cases opened : world.device.isOpen
  · obtain ⟨readings, gathered, after, ran, -, -, listened⟩ := receive_gathers opened count
    rw [ran]
    exact listened.handed
  · rw [receive, Action.result_bind_of_error (result_requireOpen_of_closed opened _)]

/-- Receiving is wired as what it has taken. -/
theorem wired_receive (records : world.device.RecordsWrites) {count : Int} {hearing : Hearing}
    {readings : List Reading} (received : (receive count).result world = (hearing.outcome, middle))
    (reads : world.device.Reads readings middle.device)
    (taken : hearing.taken = Reading.taken readings) : Wired world [] [hearing] middle := by
  have heard := heard_receive count world
  have handed := handed_receive count world
  rw [received] at heard handed
  refine ⟨handed.trans (List.append_nil _).symm, ?_, ?_⟩
  · rw [heard]
    cases hearing <;> rfl
  · rw [List.flatMap_singleton, taken]
    exact reads.carried records

end Line

/-- **On a course the events tell what went over the wire.** The induction is on the course; its
parts are joined by what they have left queued. -/
theorem Course.wired {world after : World} {hearings : List Hearing}
    (course : Course world hearings after) (records : world.device.RecordsWrites) :
    ∃ sent, Wired world sent hearings after := by
  induction course with
  | done world => exact ⟨[], .refl records⟩
  | aside aside _ ih =>
      have first := aside.wired records
      obtain ⟨sent, rest⟩ := ih first.carried.records
      exact ⟨sent, first.trans rest⟩
  | send data sent _ ih =>
      obtain ⟨writes, first⟩ := Line.wired_send records sent
      obtain ⟨sent, rest⟩ := ih first.carried.records
      exact ⟨writes ++ sent, first.trans rest⟩
  | receive count received reads taken _ ih =>
      have first := Line.wired_receive records received reads taken
      obtain ⟨sent, rest⟩ := ih first.carried.records
      exact ⟨sent, first.trans rest⟩

/-- Two courses in a row make one. -/
theorem Course.trans {before middle after : World} {hearings others : List Hearing}
    (first : Course before hearings middle) (second : Course middle others after) :
    Course before (hearings ++ others) after := by
  induction first with
  | done world => exact second
  | aside aside _ ih => exact .aside aside (ih second)
  | send data sent _ ih => exact .send data sent (ih second)
  | receive count received reads taken _ ih => exact .receive count received reads taken (ih second)

end Hexwire
