import Hexwire.Proofs.Line.Closed
import Hexwire.Proofs.Exchange.Progress
import Hexwire.Proofs.Paired

/-! # How reads cut up what is queued

Two worlds are alike when they differ only in how the reads of their scripted devices, which have no
faults, cut up the queue (`Hexwire.World.Alike`). Work is impartial when it ends the same way in
worlds that are alike, and leaves worlds that are alike (`Hexwire.Action.Impartial`). A single read
is not, but collecting is: it takes the head of the queue, as much as there is of it, and leaves the
rest (`Hexwire.Line.result_collect`).
-/

namespace Hexwire

/-- Two scripted devices without faults that have the same octets queued, are as open and have
recorded the same writes. -/
inductive Device.Alike : Device → Device → Prop where
  | scripted {d d' : ScriptedDevice} (faultless : d.script.Faultless)
    (closes : ∀ call, d.script.onClose call = none) (faultless' : d'.script.Faultless)
    (closes' : ∀ call, d'.script.onClose call = none) (queue : d.queue = d'.queue)
    (isOpen : d.isOpen = d'.isOpen) (written : d.written = d'.written) :
    Alike (.scripted d) (.scripted d')

namespace Device.Alike

variable {device other : Device}

/-- Devices that are alike are both open or both closed. -/
theorem isOpen_eq (alike : device.Alike other) : device.isOpen = other.isOpen := by
  cases alike with
  | scripted _ _ _ _ _ isOpen _ => exact isOpen

/-- Devices that are alike have the same octets queued. -/
theorem queue_eq (alike : device.Alike other) : device.queue = other.queue := by
  cases alike with
  | scripted _ _ _ _ queue _ _ => exact queue

/-- Devices that are alike have taken the same writes. -/
theorem written_eq (alike : device.Alike other) : device.written = other.written := by
  cases alike with
  | scripted _ _ _ _ _ _ written => exact written

/-- An event is told by both devices or by neither. -/
theorem told_eq (alike : device.Alike other) (event : Event) :
    Action.told device event = Action.told other event := by
  cases alike
  rfl

/-- A write ends alike on devices that are alike. -/
theorem write (alike : device.Alike other) (data : Bytes) :
    (device.write data).1 = (other.write data).1 ∧
      (device.write data).2.Alike (other.write data).2 := by
  cases alike with
  | scripted faultless closes faultless' closes' queue isOpen written =>
      simp only [Device.write, ScriptedDevice.write, faultless.1, faultless'.1, written,
        true_and]
      exact .scripted faultless closes faultless' closes' queue isOpen rfl

/-- A flush ends alike on devices that are alike. -/
theorem flush (alike : device.Alike other) :
    device.flush.1 = other.flush.1 ∧ device.flush.2.Alike other.flush.2 := by
  cases alike with
  | scripted faultless closes faultless' closes' queue isOpen written =>
      simp only [Device.flush, ScriptedDevice.flush, faultless.2.1, faultless'.2.1, true_and]
      exact .scripted faultless closes faultless' closes' queue isOpen written

/-- Closing ends alike on devices that are alike. -/
theorem close (alike : device.Alike other) :
    device.close.1 = other.close.1 ∧ device.close.2.Alike other.close.2 := by
  cases alike with
  | scripted faultless closes faultless' closes' queue isOpen written =>
      simp only [Device.close, ScriptedDevice.close, closes, closes', true_and]
      exact .scripted faultless closes faultless' closes' queue rfl written

/-- Devices that are alike stay so when the same octets arrive. -/
theorem feed (alike : device.Alike other) (data : Bytes) :
    (device.feed data).Alike (other.feed data) := by
  cases alike with
  | scripted faultless closes faultless' closes' queue isOpen written =>
      exact .scripted faultless closes faultless' closes' (congrArg (· ++ data) queue) isOpen
        written

/-- Devices that are alike stay so when they open again. -/
theorem reopen (alike : device.Alike other) : device.reopen.Alike other.reopen := by
  cases alike with
  | scripted faultless closes faultless' closes' queue isOpen written =>
      exact .scripted faultless closes faultless' closes' queue rfl written

end Device.Alike

/-- Two worlds that differ only in how reads cut up the queue. -/
structure World.Alike (world other : World) : Prop where
  device : world.device.Alike other.device
  store : world.store = other.store
  sleeps : world.sleeps = other.sleeps
  events : world.events = other.events

namespace Action

/-- Work ends the same way in worlds that are alike, and leaves worlds that are alike. -/
def Impartial {α : Type} (action : Action α) : Prop :=
  ∀ world other : World, world.Alike other →
    (action.result world).1 = (action.result other).1 ∧
      (action.result world).2.Alike (action.result other).2

namespace Impartial

variable {α β : Type} {action : Action α} {next : α → Action β}

theorem pure (value : α) : Impartial (Pure.pure value : Action α) := Paired.pure value

theorem throw (raised : Raised) : Impartial (MonadExcept.throw raised : Action α) :=
  Paired.throw raised

theorem fail (failure : Failure) : Impartial (Action.fail failure : Action α) := throw _

theorem note (event : Event) : (Action.note event).Impartial := fun _ _ alike =>
  ⟨rfl, alike.device, alike.store, alike.sleeps, congrArg (· ++ [event]) alike.events⟩

theorem sleep (nanoseconds : Nat) : (Action.sleep nanoseconds).Impartial := fun _ _ alike =>
  ⟨rfl, alike.device, alike.store, congrArg (· ++ [nanoseconds]) alike.sleeps, alike.events⟩

/-- Impartial work may go on with impartial work. -/
theorem bind (first : action.Impartial) (rest : ∀ value, (next value).Impartial) :
    (action >>= next).Impartial := Paired.bind first rest

/-- Work may depend on what is the same in worlds that are alike. -/
theorem reading {next : World → Action α}
    (same : ∀ {world other : World}, world.Alike other → next world = next other)
    (rest : ∀ world, (next world).Impartial) : Impartial (MonadState.get >>= next) :=
  Paired.reading fun alike => same alike ▸ rest _

/-- An attempt at impartial work is impartial. -/
theorem attempt (impartial : action.Impartial) : action.attempt.Impartial :=
  Paired.attempt impartial

/-- A change of failures leaves work impartial. -/
theorem adapt (impartial : action.Impartial) (change : Raised → Raised) :
    Impartial (ExceptT.adapt change action : Action α) := Paired.adapt impartial change

/-- A change of the value leaves work impartial. -/
theorem map (impartial : action.Impartial) (change : α → β) :
    Impartial (change <$> action : Action β) := by
  rw [map_eq_pure_bind]
  exact impartial.bind fun value => pure _

/-- A device call that ends alike on devices that are alike is impartial. -/
theorem onDevice {call : Device → Except Raised α × Device}
    (same : ∀ {device other : Device}, device.Alike other →
      (call device).1 = (call other).1 ∧ (call device).2.Alike (call other).2) :
    (Action.onDevice call).Impartial := by
  intro world other alike
  obtain ⟨outcome, after⟩ := same alike.device
  rw [result_onDevice, result_onDevice]
  exact ⟨outcome, after, alike.store, alike.sleeps, alike.events⟩

/-- A write is impartial, as it reads nothing. -/
theorem write (data : Bytes) : (Action.write data).Impartial := by
  intro world other alike
  obtain ⟨outcome, after⟩ := alike.device.write data
  rw [result_write, result_write, alike.device.told_eq]
  exact ⟨outcome, after, alike.store, alike.sleeps, congrArg (· ++ _) alike.events⟩

end Impartial

end Action

open Hexwire.Action

/-- Some items off the head of a sequence, and then as many of the rest as are missing. -/
theorem take_rest {α : Type} {size count : Nat} (bounded : size ≤ count) (items : List α) :
    items.take size ++ (items.drop size).take (count - (items.take size).length) =
      items.take count := by
  by_cases enough : size ≤ items.length
  · rw [List.length_take, Nat.min_eq_left enough, ← List.take_add, Nat.add_sub_cancel' bounded]
  · rw [List.drop_eq_nil_of_le (by omega), List.take_nil, List.append_nil,
      List.take_of_length_le (by omega), List.take_of_length_le (by omega)]

/-- What was not taken at once is still there to be dropped. -/
theorem drop_rest {α : Type} {size count : Nat} (bounded : size ≤ count) (items : List α) :
    (items.drop size).drop (count - (items.take size).length) = items.drop count := by
  by_cases enough : size ≤ items.length
  · rw [List.length_take, Nat.min_eq_left enough, List.drop_drop, Nat.add_sub_cancel' bounded]
  · have past : items.drop size = [] := List.drop_eq_nil_of_le (by omega)
    rw [past, List.drop_nil, List.drop_eq_nil_of_le (by omega)]

namespace Line

/-- **Collecting takes the head of the queue,** as much as there is of it, however the reads cut it
up. The induction is on the count that is still missing. -/
theorem result_collect (count : Nat) {d : ScriptedDevice} (faultless : d.script.Faultless)
    {world : World} (same : world.device = .scripted d) :
    ∃ reads, (collect count).result world =
      (.ok (d.queue.take count),
        { world with
          device := .scripted { d with reads := reads, queue := d.queue.drop count } }) := by
  induction count using Nat.strongRecOn generalizing d world with
  | ind count ih =>
      rw [collect]
      by_cases done : count = 0
      · rw [if_pos done, done]
        exact ⟨d.reads, by rw [result_pure, List.take_zero, List.drop_zero, ← same]⟩
      · rw [if_neg done]
        obtain ⟨limit, plan, allowed⟩ := faultless.2.2 d.reads
        obtain ⟨size, bounded, positive, read⟩ := Device.read_of_give plan count
        have room := positive allowed (Nat.pos_of_ne_zero done)
        have ran := result_read count world
        simp only [same, Device.read, read, told, List.append_nil] at ran
        rw [result_bind_of_ok ran]
        by_cases empty : (d.queue.take size).length = 0
        · -- A read of a faultless device brings nothing only if nothing is queued.
          have nothing : d.queue = [] := by
            rw [List.length_take] at empty
            exact List.eq_nil_of_length_eq_zero (by omega)
          rw [if_pos empty, nothing, List.take_nil, List.drop_nil, List.drop_nil]
          exact ⟨_, rfl⟩
        · rw [if_neg empty]
          let rest : ScriptedDevice :=
            { d with reads := d.reads + 1, queue := d.queue.drop size }
          have still : rest.script.Faultless := faultless
          obtain ⟨reads, more⟩ := ih (count - (d.queue.take size).length) (by omega) still
            (rfl : { world with device := .scripted rest }.device = .scripted rest)
          rw [result_bind_of_ok more, result_pure, take_rest bounded, drop_rest bounded]
          exact ⟨reads, rfl⟩

/-- Collecting octets does not show how they are cut, as it reads on until it has them. -/
theorem impartial_collect (count : Nat) : (collect count).Impartial := by
  rintro ⟨device, store, sleeps, events⟩ ⟨other, store', sleeps', events'⟩
    ⟨devices, stores, pauses, log⟩
  cases devices with
  | scripted faultless closes faultless' closes' queue isOpen written =>
      obtain ⟨reads, ran⟩ := result_collect count faultless
        (rfl : (World.mk (.scripted _) store sleeps events).device = _)
      obtain ⟨reads', ran'⟩ := result_collect count faultless'
        (rfl : (World.mk (.scripted _) store' sleeps' events').device = _)
      rw [ran, ran', queue]
      exact ⟨rfl, .scripted faultless closes faultless' closes' rfl isOpen written, stores, pauses,
        log⟩

end Line

/-- The calls of a line keep worlds alike. -/
theorem World.kept_alike : World.Kept World.Alike Eq where
  isOpen alike := alike.device.isOpen_eq
  size same := congrArg View.size same
  load alike same := by rw [alike.store, same]
  save data alike same := ⟨alike.device, by rw [alike.store, same], alike.sleeps, alike.events⟩
  note := Impartial.note
  sleep := Impartial.sleep
  write := Impartial.write
  flush := Impartial.onDevice fun alike => alike.flush
  collect := Line.impartial_collect

namespace Line

theorem impartial_isOpen : isOpen.Impartial :=
  Impartial.reading (fun alike => congrArg Pure.pure alike.device.isOpen_eq) fun _ => .pure _

theorem impartial_requireOpen (description : String) : (requireOpen description).Impartial :=
  World.kept_alike.requireOpen description

theorem impartial_flush : flush.Impartial :=
  (impartial_requireOpen _).bind fun _ => World.kept_alike.flush.adapt _

/-- Sending does not show how octets are cut. -/
theorem impartial_send (data : Bytes) : (send data).Impartial := World.kept_alike.send data

/-- Receiving does not show how octets are cut. -/
theorem impartial_receive (count : Int) : (receive count).Impartial :=
  World.kept_alike.receive count

/-- A command does not show how its answer is cut. -/
theorem impartial_command (request expected : Bytes) : (command request expected).Impartial :=
  World.kept_alike.command request expected

theorem impartial_close : close.Impartial := by
  refine impartial_isOpen.bind fun opened => ?_
  split
  · exact (Impartial.onDevice fun alike => alike.close).adapt _
  · exact .pure _

/-- Work on a line that then closes does not show how octets are cut. -/
theorem impartial_closing {α : Type} {work : Action α} (impartial : work.Impartial) :
    (closing work).Impartial := by
  refine impartial.attempt.bind fun outcome => impartial_close.bind fun _ => ?_
  cases outcome with
  | ok value => exact .pure _
  | error raised => exact .throw _

end Line

/-- A toggle does not show how its acknowledgement is cut. -/
theorem ChipSelect.impartial_toggle : toggle.Impartial := World.kept_alike.toggle

end Hexwire
