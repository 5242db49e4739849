import Hexwire.Proofs.Session.Account

/-! # Sessions on a closed line

Once a step has closed the device, every step of a session stalls until the device is opened again.
What one step leaves as it was a sequence of steps leaves as it was
(`Hexwire.Session.reach_stalled`), so the device stays, with the count of its calls, what it was
when it was closed, and every report tells of nothing but a refusal
(`Hexwire.Session.stays_inert`).
-/

namespace Hexwire

/-- The named buffers of the named buffers are all of them. -/
theorem Store.named_named (store : Store) : store.named.named = store.named := by
  simp only [Store.named, List.filter_filter, Bool.and_self]

/-- Octets that arrive in two portions arrive in one. -/
theorem Device.feed_feed (device : Device) (first second : Bytes) :
    (device.feed first).feed second = device.feed (first ++ second) := by
  cases device with
  | scripted d => simp only [feed, List.append_assoc]
  | emulated e => rfl

/-- A device is as open after octets have arrived. -/
theorem Device.isOpen_feed (device : Device) (data : Bytes) :
    (device.feed data).isOpen = device.isOpen := by
  cases device <;> rfl

/-- Octets that arrive are not written. -/
theorem Device.written_feed (device : Device) (data : Bytes) :
    (device.feed data).written = device.written := by
  cases device <;> rfl

variable {world : World}

namespace Session

/-- The contents of named buffers are shown without the others as well. -/
theorem namedBuffers_named (store : Store) :
    namedBuffers store.named = namedBuffers store := by
  rw [namedBuffers, namedBuffers, Store.named, List.filterMap_filter]
  congr 1
  funext entry
  rcases entry with ⟨named | anonymous, contents⟩ <;> rfl

/-- More steps lead on from where those before them lead. -/
theorem reach_append (bridge : Bridge) (world : World) (earlier later : List Step) :
    reach bridge world (earlier ++ later) =
      reach (reach bridge world earlier).1 (reach bridge world earlier).2 later := by
  induction earlier generalizing bridge world with
  | nil => rfl
  | cons first rest ih => exact ih _ _

/-- **Steps on a closed line** leave the device as it was, the count of its calls included, but for
what is fed, and the buffers. -/
theorem reach_stalled (closed : ¬ world.device.isOpen) (bridge : Bridge) {steps : List Step}
    (unopened : ∀ next ∈ steps, next ≠ .reopen) :
    (reach bridge world steps).2.device = world.device.feed (steps.flatMap Step.fed) ∧
      (reach bridge world steps).2.store.named = world.store.named := by
  induction steps generalizing bridge world with
  | nil => exact ⟨(Device.feed_nil _).symm, rfl⟩
  | cons first rest ih =>
      obtain ⟨now, later⟩ := List.forall_mem_cons.mp unopened
      have shut : ¬ (fresh world).device.isOpen := closed
      have stalled := step_stalled shut bridge now
      rcases taken : step bridge (fresh world) first with ⟨told, bridge', after⟩
      rw [taken] at stalled
      have device : after.device = world.device.feed first.fed := stalled.device
      have buffers : after.store.named = world.store.named :=
        stalled.buffers.trans (Store.named_named _)
      have still : ¬ after.device.isOpen := by
        rw [device, Device.isOpen_feed]
        exact closed
      obtain ⟨devices, stores⟩ := ih still bridge' later
      simp only [reach, taken]
      refine ⟨?_, stores.trans buffers⟩
      rw [devices, device, Device.feed_feed, List.flatMap_cons]

/-- A step has closed the device: it is a close that succeeds, or whatever else, such as a block,
leaves the device closed. -/
def Shuts (before : Bridge × World) (closing : Step) : Prop :=
  (closing = .close ∧ (report before closing).outcome = .ok .null) ∨
    (report before closing).observation.isOpen = false

/-- A step that shuts the device leaves it closed. -/
theorem Shuts.isOpen {before : Bridge × World} {closing : Step} (shut : Shuts before closing) :
    (step before.1 (fresh before.2) closing).2.2.device.isOpen = false := by
  obtain ⟨rfl, succeeded⟩ | closed := shut
  · simp only [report, step, step.plain, result_silently] at succeeded ⊢
    rcases ended : Line.close.result (fresh before.2) with ⟨raised | ⟨⟩, after⟩
    · rw [ended] at succeeded
      cases succeeded
    · exact Line.isOpen_of_close ended
  · exact closed

/-- What the report of a step tells that was taken on a closed line. -/
structure Inert (before : Bridge × World) (next : Step) (told : Report) : Prop where
  outcome : told.outcome = next.refusal before.1 before.2.store.named
  filled : told.filled = next.shows before.2.store.named
  sent : told.observation.sent = []
  sleeps : told.observation.sleeps = []
  buffers : told.observation.buffers = namedBuffers before.2.store
  isOpen : told.observation.isOpen = false
  pending : told.observation.pending = (before.2.device.feed next.fed).queue.length

/-- On a closed device every step but the one that opens it is inert. -/
theorem inert_report {before : Bridge × World} (closed : ¬ before.2.device.isOpen) {next : Step}
    (unopened : next ≠ .reopen) : Inert before next (report before next) := by
  have shut : ¬ (fresh before.2).device.isOpen := closed
  obtain ⟨outcome, filled, device, buffers, sleeps⟩ := step_stalled shut before.1 unopened
  have same : (step before.1 (fresh before.2) next).2.2.device =
      before.2.device.feed next.fed := device
  refine ⟨outcome, filled, ?_, sleeps, ?_, ?_, ?_⟩
  · simp only [report, observe, same, Device.written_feed, List.drop_length]
  · simp only [report, observe]
    rw [← namedBuffers_named, buffers, namedBuffers_named]
    exact namedBuffers_named before.2.store
  · simp only [report, observe, same, Device.isOpen_feed]
    exact Bool.eq_false_iff.mpr closed
  · simp only [report, observe, same]

/-- **A closed line is inert.** From the moment a step has closed the device until it is opened
again, every step of every session ends at once, as its kind and its operands say: nothing is
written, read or slept, and no buffer changes. After any number of such steps the device is the one
that was closed, but for what was fed to it, and the buffers are those of that moment. -/
theorem stays_inert (bridge : Bridge) (world : World) (earlier between : List Step)
    (closing next : Step) (shut : Shuts (reach bridge world earlier) closing)
    (unopened : ∀ step ∈ between ++ [next], step ≠ .reopen) :
    let closed := reach bridge world (earlier ++ [closing])
    let before := reach bridge world (earlier ++ closing :: between)
    let after := reach bridge world (earlier ++ closing :: (between ++ [next]))
    (∃ told, run bridge world (earlier ++ closing :: (between ++ [next])) =
        run bridge world (earlier ++ closing :: between) ++ [told] ∧ Inert before next told) ∧
      after.2.device = closed.2.device.feed ((between ++ [next]).flatMap Step.fed) ∧
        after.2.store.named = closed.2.store.named := by
  intro closed before after
  have stopped : ¬ closed.2.device.isOpen := by
    simp only [closed, reach_append, reach]
    rw [shut.isOpen]
    exact Bool.false_ne_true
  have since (steps : List Step) : reach bridge world (earlier ++ closing :: steps) =
      reach closed.1 closed.2 steps := by
    rw [← List.singleton_append, ← List.append_assoc, reach_append]
  obtain ⟨first, last⟩ := List.forall_mem_append.mp unopened
  have still : ¬ before.2.device.isOpen := by
    simp only [before, since]
    rw [(reach_stalled stopped closed.1 first).1, Device.isOpen_feed]
    exact stopped
  refine ⟨⟨report before next, ?_, inert_report still ?_⟩, ?_⟩
  · rw [← List.cons_append, ← List.append_assoc, run_concat]
  · exact last next (List.mem_singleton.mpr rfl)
  · simp only [after, since]
    exact reach_stalled stopped closed.1 unopened

/-- A read on a line that was closed after a command was sent: its acknowledgement is still queued
and another one arrives, but the buffer is not even filled with zeros. -/
theorem inert_unanswered :
    let bridge : Bridge := ⟨⟨"COM1", Line.defaultBaudRate⟩, false⟩
    let script : Script := ⟨none, fun _ => none, fun _ => .give none, fun _ => none, fun _ => none⟩
    let world : World :=
      { device := .scripted { script := script, queue := ChipSelect.acknowledgement }
        store := [(.named "a", [1, 2])] }
    let earlier : List Step := [.send chipSelectCommand]
    let between : List Step := [.feed ChipSelect.acknowledgement,
      .closingTransaction [.inPlace (.whole "a")], .setRelease true]
    let next : Step := .single (.read (.slice "a" (some 1) none))
    ∃ told, run bridge world (earlier ++ .close :: (between ++ [next])) =
        run bridge world (earlier ++ .close :: between) ++ [told] ∧
      told.outcome = .error ⟨.bridge .io (some "Link is not opened for writing"), none⟩ ∧
        told.filled = some (.bytes [2]) ∧
        told.observation.sent = [] ∧ told.observation.pending = 8 ∧
          told.observation.buffers = [("a", [1, 2])] := by
  intro bridge script world earlier between next
  have shut : Shuts (reach bridge world earlier) .close := .inl ⟨rfl, rfl⟩
  obtain ⟨⟨told, grown, inert⟩, -, -⟩ := stays_inert bridge world earlier between .close next shut
    (by simp [between, next])
  refine ⟨told, grown, inert.outcome, inert.filled.trans ?_, inert.sent, inert.pending.trans ?_,
    inert.buffers.trans ?_⟩
  · rfl
  · rfl
  · rfl

end Session

end Hexwire
