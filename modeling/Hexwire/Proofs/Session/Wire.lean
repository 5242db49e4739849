import Hexwire.Proofs.Session.Inert
import Hexwire.Proofs.Transaction.Charted

/-! # What the log of a session shows of the wire

Every step of a session takes a course on the line (`Hexwire.Session.step_course`), after what it
lets arrive has arrived. A log of detail therefore shows what went over the wire in each step: the
writes in order, and the octets of the calls that received whole
(`Hexwire.Session.log_shows_wire`). What calls that failed have taken is missing from the log, and
nothing else is.
-/

namespace Hexwire

open Hexwire.Action

/-- A world in which octets have arrived at the device. -/
def World.fed (world : World) (data : Bytes) : World :=
  { world with device := world.device.feed data }

/-- A peer whose device records all its writes. -/
def Peer.RecordsWrites : Peer → Prop
  | scripted script _ => ∀ call, script.onWrite call = none
  | emulated _ => True

/-- A device that records its writes goes on doing so when octets arrive. -/
theorem Device.RecordsWrites.feed {device : Device} (records : device.RecordsWrites)
    (data : Bytes) : (device.feed data).RecordsWrites := by
  cases device with
  | scripted d => exact records
  | emulated e => trivial

/-- What a bridge queues in answer does not depend on what arrives otherwise. -/
theorem Device.answers_feed (device : Device) (data : Bytes) :
    (device.feed data).answers = device.answers := by
  cases device <;> rfl

/-- A device of a peer that records its writes records them. -/
theorem Peer.RecordsWrites.connect {peer : Peer} (records : peer.RecordsWrites) {device : Device}
    (connected : peer.connect = .ok device) : device.RecordsWrites := by
  cases peer with
  | scripted script incoming =>
      cases planned : script.onOpen with
      | some failure =>
          simp only [Peer.connect, planned] at connected
          cases connected
      | none =>
          simp only [Peer.connect, planned] at connected
          cases connected
          exact records
  | emulated behaviour =>
      cases connected
      trivial

namespace Session

variable {world : World}

/-- Charted work is so too when it is done silently. -/
theorem charted_silently {work : Action Unit} (charted : work.Charted) :
    (silently work).Charted := charted.bind fun _ => .pure _

/-- Charted work takes its course when the buffers have been prepared for it. -/
theorem course_prepared {α : Type} {work : Action α} (charted : work.Charted) (store : Store) :
    ∃ hearings, Course world hearings (work.result { world with store := store }).2 := by
  have prepared : Aside world { world with store := store } := ⟨.refl _, rfl, rfl⟩
  obtain ⟨hearings, course⟩ := charted { world with store := store }
  exact ⟨hearings, .aside prepared course⟩

/-- Where nothing has arrived the course starts with the world. -/
theorem course_unfed {after : World} (course : ∃ hearings, Course world hearings after) :
    ∃ hearings, Course (world.fed []) hearings after := by
  rwa [World.fed, Device.feed_nil]

/-- **Every step takes a course,** after what it lets arrive has arrived. -/
theorem step_course (bridge : Bridge) (world : World) (next : Step) :
    ∃ hearings, Course (world.fed next.fed) hearings (step bridge world next).2.2 := by
  cases next with
  | toggle => exact course_unfed (charted_silently ChipSelect.charted_toggle world)
  | command request expected =>
      exact course_unfed (charted_silently (Line.charted_command request expected) world)
  | exchangeFrame target =>
      exact course_unfed (course_prepared (charted_silently (Exchange.charted_through _)) _)
  | single operation =>
      exact course_unfed (course_prepared (charted_silently (Transaction.charted_run _ _)) _)
  | transaction operations =>
      exact course_unfed (course_prepared (charted_silently (Transaction.charted_run _ _)) _)
  | closingTransaction operations =>
      exact course_unfed (course_prepared
        (charted_silently (Line.charted_closing (Transaction.charted_run _ _))) _)
  | closingCall data count =>
      exact course_unfed (Line.charted_closing ((Line.charted_send data).bind fun _ =>
        (Line.charted_receive count).map _) world)
  | exchange source pieceSize =>
      exact course_unfed (course_prepared (Charted.get.bind fun reached =>
        (Transaction.charted_exchange _ _ pieceSize).map _) _)
  | send data => exact course_unfed (charted_silently (Line.charted_send data) world)
  | receive count => exact course_unfed ((Line.charted_receive count).map _ world)
  | flush => exact course_unfed (charted_silently Line.charted_flush world)
  | close => exact course_unfed (charted_silently Line.charted_close world)
  | isOpen => exact course_unfed (Line.charted_isOpen.map Value.bool world)
  | describe => exact course_unfed ⟨[], .done _⟩
  | feed data => exact ⟨[], .done _⟩
  | reopen =>
      have reopened : Aside world { world with device := world.device.reopen } :=
        ⟨Device.reopen_still _, rfl, rfl⟩
      exact course_unfed ⟨[], .aside reopened (.done _)⟩
  | setRelease release => exact course_unfed ⟨[], .done _⟩

/-- The steps of a session leave a device that goes on recording its writes. -/
theorem reach_records (records : world.device.RecordsWrites) (bridge : Bridge)
    (steps : List Step) : (reach bridge world steps).2.device.RecordsWrites := by
  induction steps generalizing bridge world with
  | nil => exact records
  | cons first rest ih =>
      obtain ⟨hearings, course⟩ := step_course bridge (fresh world) first
      obtain ⟨sent, wired⟩ := course.wired (records.feed first.fed)
      exact ih wired.carried.records _

/-- A port that was opened leads to a device that records its writes if its peer does. -/
theorem start_records {line : Line} {peer : Peer} {store : Store} (records : peer.RecordsWrites)
    (started : start line peer store = .connected (.ok ()) world) :
    world.device.RecordsWrites := by
  unfold start at started
  split at started
  · cases started
  · next device connected =>
      have opening : line.start.Charted := (Charted.note rfl rfl).bind fun _ => Line.charted_flush
      obtain ⟨hearings, course⟩ := opening { device := device, store := store }
      have opened : device.RecordsWrites := by
        unfold Line.connect at connected
        cases offered : peer.connect with
        | error failure =>
            rw [offered] at connected
            cases connected
        | ok other =>
            rw [offered] at connected
            cases connected
            exact records.connect offered
      obtain ⟨sent, wired⟩ := course.wired opened
      rcases ran : line.start.result { device := device, store := store } with ⟨outcome, reached⟩
      rw [ran] at started wired
      cases started
      exact wired.carried.records

/-- What a log of detail shows of a step that starts with a bridge and a world, where the step takes
a course with the given hearings: the writes of the step, and the octets of the calls that received
whole. What was queued, had arrived or is queued in answer to the writes has been taken by the calls
that received, in their order, or is still queued. -/
structure Shown (before : Bridge × World) (next : Step) (told : Report) (hearings : List Hearing) :
    Prop where
  sent : (Log.kept Log.debug told.observation.records).filterMap Log.Record.sent? =
    told.observation.sent
  heard : (Log.kept Log.debug told.observation.records).filterMap Log.Record.heard? =
    hearings.filterMap Hearing.whole?
  gave : (before.2.device.feed next.fed).queue ++ before.2.device.answers told.observation.sent =
    hearings.flatMap Hearing.taken ++ (step before.1 (fresh before.2) next).2.2.device.queue

/-- The log of a step shows the course that it takes. -/
theorem shown_of_course {before : Bridge × World} {next : Step} {hearings : List Hearing}
    (records : before.2.device.RecordsWrites)
    (course : Course ((fresh before.2).fed next.fed) hearings
      (step before.1 (fresh before.2) next).2.2) :
    Shown before next (report before next) hearings := by
  obtain ⟨sent, handed, heard, written, gave, -, -⟩ := course.wired (records.feed next.fed)
  have sends : (report before next).observation.sent = sent := by
    have unwritten := Device.written_feed (fresh before.2).device next.fed
    rw [World.fed, unwritten] at written
    simp only [report, observe]
    rw [written]
    exact List.drop_left
  refine ⟨?_, ?_, ?_⟩
  · rw [sends]
    exact (World.kept_debug _ ▸ World.sent_records _).trans handed
  · exact (World.kept_debug _ ▸ World.heard_records _).trans heard
  · rw [sends, ← Device.answers_feed]
    exact gave

/-- **The log of a session shows the wire.** Over a device that records its writes every step takes
a course, and on every course that leads where the step has led, a log of detail shows the writes in
order as sent, and as received what the calls that succeeded have returned, in order. The octets
that calls took before they failed are missing from the log and from the queue, each in its place,
and nothing else is. -/
theorem log_shows_wire {line : Line} {peer : Peer} {store : Store} (records : peer.RecordsWrites)
    (started : start line peer store = .connected (.ok ()) world) (bridge : Bridge)
    (earlier : List Step) (next : Step) :
    let before := reach bridge world earlier
    let after := (step before.1 (fresh before.2) next).2.2
    ∃ told, run bridge world (earlier ++ [next]) = run bridge world earlier ++ [told] ∧
      (∃ hearings, Course ((fresh before.2).fed next.fed) hearings after) ∧
        ∀ hearings, Course ((fresh before.2).fed next.fed) hearings after →
          Shown before next told hearings := by
  intro before after
  have reached := reach_records (start_records records started) bridge earlier
  exact ⟨_, run_concat bridge world earlier next, step_course _ _ next,
    fun hearings course => shown_of_course reached course⟩

/-- A device that gives all it is asked for at first and then a single octet, and is interrupted
from the keyboard after that. -/
def faltering : Script where
  onOpen := none
  onWrite _ := none
  onRead call :=
    if call = 0 then .give none
    else if call = 1 then .give (some 1)
    else .fail (.host .keyboardInterrupt [])
  onFlush _ := none
  onClose _ := none

/-- A transfer is interrupted after one octet of its echo, which is missing from the log. -/
theorem log_shows_faltering :
    let line : Line := ⟨"COM1", Line.defaultBaudRate⟩
    let next : Step := .single (.write (.fresh [7]))
    ∃ world, start line (.scripted faltering [0x4F, 0x4B, 0x0D, 0x0A, 0x30, 0x31]) [] =
        .connected (.ok ()) world ∧ ∃ (told : Report) (hearings : List Hearing),
      run ⟨line, false⟩ world ([.setRelease true] ++ [next]) =
          run ⟨line, false⟩ world [.setRelease true] ++ [told] ∧
        (Log.kept Log.debug told.observation.records).filterMap Log.Record.sent? =
          [chipSelectCommand, [0x30, 0x37, 0x78, 0x0A]] ∧
        (Log.kept Log.debug told.observation.records).filterMap Log.Record.heard? =
          [ChipSelect.acknowledgement] ∧
        hearings.flatMap Hearing.taken = [0x4F, 0x4B, 0x0D, 0x0A, 0x30] := by
  intro line next
  have records : (Peer.scripted faltering [0x4F, 0x4B, 0x0D, 0x0A, 0x30, 0x31]).RecordsWrites :=
    fun _ => rfl
  obtain ⟨world, started⟩ : ∃ world,
      start line (.scripted faltering [0x4F, 0x4B, 0x0D, 0x0A, 0x30, 0x31]) [] =
        .connected (.ok ()) world := ⟨_, rfl⟩
  obtain ⟨told, grown, ⟨hearings, course⟩, shows⟩ :=
    log_shows_wire records started ⟨line, false⟩ [.setRelease true] next
  obtain ⟨sent, -, gave⟩ := shows hearings course
  have same := List.append_cancel_left (grown.symm.trans (run_concat _ _ _ _))
  obtain rfl := List.singleton_inj.mp same
  refine ⟨world, started, _, hearings, grown, sent.trans ?_, ?_, ?_⟩
  · cases started
    decide +kernel
  · refine (World.kept_debug _ ▸ World.heard_records _).trans ?_
    cases started
    decide +kernel
  · -- The octet that is left is not the one the interrupted call took.
    have pending : (step (reach ⟨line, false⟩ world [.setRelease true]).1
        (fresh (reach ⟨line, false⟩ world [.setRelease true]).2) next).2.2.device.queue =
          [0x31] := by
      cases started
      decide +kernel
    rw [pending] at gave
    refine List.append_cancel_right (gave.symm.trans ?_)
    cases started
    decide +kernel

end Session

end Hexwire
