import Hexwire.Proofs.Buffer.Binding
import Hexwire.Proofs.Line.Candid
import Hexwire.Proofs.Transaction.Served

/-! # Steps on a closed line

Each call of a line checks for itself that the device is open, and whatever a step is made of starts
with such a call. On a closed line a step therefore ends at once, as its kind and its operands say
(`Hexwire.Step.refusal`), and nothing but the log has changed (`Hexwire.Action.Stalls`): no call has
reached the device, no sleep was asked for, and no buffer was made ready for an exchange that does
not take place (`Hexwire.Session.step_stalled`).
-/

namespace Hexwire

namespace Action

variable {α β : Type} {action : Action α} {world : World}

/-- Work ends with an outcome and leaves everything but the log as it was. -/
def Stalls (action : Action α) (outcome : Except Raised α) (world : World) : Prop :=
  ∃ events, action.result world = (outcome, { world with events := events })

namespace Stalls

theorem pure (value : α) (world : World) : Stalls (Pure.pure value) (.ok value) world :=
  ⟨world.events, rfl⟩

theorem throw (raised : Raised) (world : World) :
    Stalls (MonadExcept.throw raised : Action α) (.error raised) world := ⟨world.events, rfl⟩

/-- What comes after a stalled failure is not reached. -/
theorem stop {raised : Raised} (stalls : action.Stalls (.error raised) world)
    (next : α → Action β) : (action >>= next).Stalls (.error raised) world := by
  obtain ⟨events, ran⟩ := stalls
  exact ⟨events, result_bind_of_error ran next⟩

/-- An event is noted before the work. -/
theorem noted {event : Event} {outcome : Except Raised α}
    (stalls : action.Stalls outcome { world with events := world.events ++ [event] }) :
    (do note event; action).Stalls outcome world := by
  obtain ⟨events, ran⟩ := stalls
  exact ⟨events, (result_bind_of_ok (result_note event world) _).trans ran⟩

/-- A change of the value leaves stalled work stalled. -/
theorem map {outcome : Except Raised α} (stalls : action.Stalls outcome world) (change : α → β) :
    (change <$> action).Stalls (outcome.map change) world := by
  obtain ⟨events, ran⟩ := stalls
  refine ⟨events, ?_⟩
  rw [result_map, ran]

end Stalls

end Action

open Hexwire.Action

variable {world : World}

namespace Line

/-- How sending fails on a closed line. -/
def unsendable : Raised := ⟨.bridge .io (some "Link is not opened for writing"), none⟩

/-- How receiving fails on a closed line. -/
def unreceivable : Raised := ⟨.bridge .io (some "Link is not opened for reading"), none⟩

/-- How flushing fails on a closed line. -/
def unflushable : Raised := ⟨.bridge .io (some "Link is not opened"), none⟩

/-- Sending stalls on a closed line. -/
theorem stalls_send (closed : ¬ world.device.isOpen) (data : Bytes) :
    (send data).Stalls (.error unsendable) world :=
  ⟨world.events, result_send_of_closed closed data⟩

/-- Receiving stalls on a closed line. -/
theorem stalls_receive (closed : ¬ world.device.isOpen) (count : Int) :
    (receive count).Stalls (.error unreceivable) world :=
  Stalls.stop ⟨world.events, result_requireOpen_of_closed closed _⟩ _

/-- A flush stalls on a closed line. -/
theorem stalls_flush (closed : ¬ world.device.isOpen) :
    flush.Stalls (.error unflushable) world :=
  Stalls.stop ⟨world.events, result_requireOpen_of_closed closed _⟩ _

/-- A command stalls on a closed line. -/
theorem stalls_command (closed : ¬ world.device.isOpen) (request expected : Bytes) :
    (command request expected).Stalls (.error unsendable) world :=
  (stalls_send closed request).stop _

/-- A closed line tells that it is closed. -/
theorem stalls_isOpen (closed : ¬ world.device.isOpen) : isOpen.Stalls (.ok false) world := by
  have shut : world.device.isOpen = false := Bool.eq_false_iff.mpr closed
  refine ⟨world.events, ?_⟩
  unfold isOpen
  simp only [result_bind, result_get, result_pure, shut]

/-- Closing a closed line does nothing. -/
theorem stalls_close (closed : ¬ world.device.isOpen) : close.Stalls (.ok ()) world := by
  refine ⟨world.events, ?_⟩
  rw [result_close, if_neg closed]

/-- A block around work that stalls has nothing to close. -/
theorem stalls_closing {α : Type} {work : Action α} {outcome : Except Raised α}
    (closed : ¬ world.device.isOpen) (stalls : work.Stalls outcome world) :
    (closing work).Stalls outcome world := by
  obtain ⟨events, ran⟩ := stalls
  have still : ¬ { world with events := events }.device.isOpen := closed
  obtain ⟨later, shut⟩ := stalls_close still
  refine ⟨later, ?_⟩
  rw [result_closing, ran]
  simp only [shut]

end Line

/-- A toggle stalls on a closed line. -/
theorem ChipSelect.stalls_toggle (closed : ¬ world.device.isOpen) :
    toggle.Stalls (.error Line.unsendable) world := ⟨_, result_toggle_of_closed closed⟩

namespace Exchange

/-- How an exchange of so many octets ends on a closed line. -/
def refusal (size : Nat) : Except Raised Unit :=
  if size = 0 then .ok ()
  else if size ≤ Frame.maxPayload then .error Line.unsendable
  else .error (Frame.Fault.long size).raised

/-- An exchange through a view changes nothing: it has nothing to send, or fails before it has
received what it would save. -/
theorem stalls_through (closed : ¬ world.device.isOpen) (view : View) :
    (through view).Stalls (refusal (world.store.load view).length) world := by
  rw [Stalls, Operation.result_through]
  generalize world.store.load view = data
  by_cases empty : data = []
  · refine ⟨world.events, ?_⟩
    rw [empty, payload_nil]
    simp only [result_pure, Store.save_nil]
    rfl
  · have filled : data.length ≠ 0 := fun zero => empty (List.eq_nil_of_length_eq_zero zero)
    by_cases fits : data.length ≤ Frame.maxPayload
    · obtain ⟨events, ran⟩ := (Line.stalls_send closed (Frame.encode data)).stop
        fun _ => awaitEcho data
      refine ⟨events, ?_⟩
      rw [payload_of_fits empty fits, ran]
      simp only [refusal, if_neg filled, if_pos fits]
    · refine ⟨world.events, ?_⟩
      rw [payload_of_long (Nat.not_le.mp fits)]
      simp only [result_throw, refusal, if_neg filled, if_neg fits]

end Exchange

namespace Transaction

/-- Work between toggles stalls on a closed line before it starts. -/
theorem stalls_bracketed (closed : ¬ world.device.isOpen) (release : Bool) {α : Type}
    (work : Action α) : (bracketed release work).Stalls (.error Line.unsendable) world :=
  (ChipSelect.stalls_toggle closed).stop _

/-- How an exchange in pieces of a size ends on a closed line. -/
def refusal {α : Type} (pieceSize : Int) : Except Raised α :=
  if 0 < pieceSize ∧ pieceSize ≤ Frame.maxPayload then .error Line.unsendable
  else .error (unfit pieceSize).raised

/-- A refusal has no value to change. -/
theorem map_refusal {α β : Type} (change : α → β) (pieceSize : Int) :
    (refusal pieceSize).map change = refusal pieceSize := by
  unfold refusal
  split <;> rfl

/-- An exchange stalls on a closed line, with the refusal for its piece size. -/
theorem stalls_exchange (closed : ¬ world.device.isOpen) (release : Bool) (data : Bytes)
    (pieceSize : Int) : (exchange release data pieceSize).Stalls (refusal pieceSize) world := by
  unfold exchange refusal
  by_cases fits : 0 < pieceSize ∧ pieceSize ≤ Frame.maxPayload
  · rw [if_pos fits, if_pos fits]
    have still : ¬ { world with events := world.events ++
        [Event.exchanging data.length (chunks pieceSize.toNat data).length] }.device.isOpen :=
      closed
    exact Stalls.noted ((stalls_bracketed still release _).stop _)
  · rw [if_neg fits, if_neg fits]
    exact Stalls.throw _ _

end Transaction

/-! ### Buffers -/

/-- Allocating a buffer without a name leaves the named ones alone. -/
theorem Store.named_allocate (store : Store) (index : Nat) (data : Bytes) :
    (store.allocate (.anonymous index) data).named = store.named := by
  simp only [Store.named, Store.allocate, List.filter_append, List.filter_cons, Bool.false_eq_true,
    ↓reduceIte, List.filter_nil, List.append_nil]

/-- Operands leave the named buffers as they are. -/
theorem Operand.named_bind (store : Store) (index : Nat) (operand : Operand) :
    (operand.bind store index).2.named = store.named := by
  cases operand with
  | fresh data => exact Store.named_allocate store index data
  | whole name => rfl
  | slice name first last => rfl

/-- The named buffers stay while operands become views. -/
theorem Operation.named_bind (store : Store) (operation : Operation Operand) :
    (operation.bind store).2.named = store.named := by
  cases operation with
  | write source => exact source.named_bind store _
  | read target => exact target.named_bind store _
  | transfer target source =>
      have first := target.named_bind store store.length
      exact (source.named_bind _ _).trans first
  | inPlace target => exact target.named_bind store _
  | delay nanoseconds => rfl
  | unsupported value => rfl

/-- The named buffers stay while the operands of all operations become views. -/
theorem Operation.named_bindAll (store : Store) (operations : List (Operation Operand)) :
    (bindAll store operations).2.named = store.named := by
  induction operations generalizing store with
  | nil => rfl
  | cons first rest ih => exact (ih _).trans (first.named_bind store)

/-! ### Steps -/

namespace Step

/-- How a step ends on a closed line. -/
def refusal (bridge : Bridge) (store : Store) : Step → Except Raised Value
  | toggle | command _ _ | send _ => .error Line.unsendable
  | single _ | transaction _ | closingTransaction _ | closingCall _ _ => .error Line.unsendable
  | exchangeFrame target =>
    let (view, bound) := target.bind store store.length
    (Exchange.refusal (bound.load view).length).map fun _ => .null
  | exchange _ pieceSize => Transaction.refusal pieceSize
  | receive _ => .error Line.unreceivable
  | flush => .error Line.unflushable
  | isOpen => .ok (.bool false)
  | describe => .ok (.list [.text bridge.render, .text bridge.line.render])
  | close | feed _ | reopen | setRelease _ => .ok .null

/-- What the buffers show that a step is to fill, before it has done anything. -/
def shows (store : Store) : Step → Option Value
  | exchangeFrame target =>
    let (view, bound) := target.bind store store.length
    some (Session.shown bound (some view))
  | single operation =>
    let (views, bound) := Operation.bindAll store [operation]
    (views.findSome? Operation.target?).map fun view => Session.shown bound (some view)
  | transaction operations | closingTransaction operations =>
    let (views, bound) := Operation.bindAll store operations
    some (.list (views.map fun operation => Session.shown bound operation.target?))
  | _ => none

/-- The octets that a step lets arrive at a scripted device. -/
def fed : Step → Bytes
  | feed data => data
  | _ => []

end Step

/-- No octets feed nothing. -/
theorem Device.feed_nil (device : Device) : device.feed [] = device := by
  cases device with
  | scripted d => simp only [feed, List.append_nil]
  | emulated e => rfl

namespace Session

/-- Work that is done silently gives no value. -/
theorem result_silently (work : Action Unit) (world : World) :
    (silently work).result world =
      ((work.result world).1.map fun _ => .null, (work.result world).2) := by
  unfold silently
  rw [Action.result_bind]
  rcases work.result world with ⟨raised | ⟨⟩, after⟩ <;> rfl

/-- Stalled work stalls as well when it is done silently. -/
theorem stalls_silently {work : Action Unit} {outcome : Except Raised Unit}
    (stalls : work.Stalls outcome world) :
    (silently work).Stalls (outcome.map fun _ => .null) world := by
  obtain ⟨events, ran⟩ := stalls
  refine ⟨events, ?_⟩
  rw [result_silently, ran]

/-- What a step leaves that has stalled: its outcome, the buffers that it was to fill, and a world
in which only what was fed has changed. -/
structure Stalled (world : World) (bridge : Bridge) (next : Step)
    (taken : (Except Raised Value × Option Value) × Bridge × World) : Prop where
  outcome : taken.1.1 = next.refusal bridge world.store
  filled : taken.1.2 = next.shows world.store
  device : taken.2.2.device = world.device.feed next.fed
  buffers : taken.2.2.store.named = world.store.named
  sleeps : taken.2.2.sleeps = world.sleeps

/-- A plain step whose work stalls is refused as foreseen. -/
theorem stalled_plain {bridge : Bridge} {next : Step} {work : Action Value}
    {outcome : Except Raised Value} (stalls : work.Stalls outcome world)
    (refused : next.refusal bridge world.store = outcome) (unfilled : next.shows world.store = none)
    (unfed : next.fed = []) : Stalled world bridge next (step.plain bridge work world) := by
  obtain ⟨events, ran⟩ := stalls
  simp only [step.plain, ran]
  refine ⟨refused.symm, unfilled.symm, ?_, rfl, rfl⟩
  rw [unfed, Device.feed_nil]

/-- A step of many operations whose work stalls is refused as foreseen. -/
theorem stalled_many {bridge : Bridge} {next : Step} {operations : List (Operation Operand)}
    {work : Action Unit}
    (stalls : work.Stalls (.error Line.unsendable) (prepare world operations).2)
    (refused : next.refusal bridge world.store = .error Line.unsendable)
    (shows : next.shows world.store = some (.list ((prepare world operations).1.map fun operation =>
      shown (prepare world operations).2.store operation.target?)))
    (unfed : next.fed = []) :
    Stalled world bridge next
      (step.many bridge (prepare world operations).1 work (prepare world operations).2) := by
  obtain ⟨events, ran⟩ := stalls_silently stalls
  simp only [step.many, ran]
  refine ⟨refused.symm, shows.symm, ?_, Operation.named_bindAll world.store operations, rfl⟩
  rw [unfed, Device.feed_nil]
  rfl

/-- **A step on a closed line** stalls, unless it opens the device. -/
theorem step_stalled (closed : ¬ world.device.isOpen) (bridge : Bridge) {next : Step}
    (unopened : next ≠ .reopen) : Stalled world bridge next (step bridge world next) := by
  cases next with
  | toggle =>
      have stalls := stalls_silently (ChipSelect.stalls_toggle closed)
      exact stalled_plain stalls rfl rfl rfl
  | command request expected =>
      have stalls := stalls_silently (Line.stalls_command closed request expected)
      exact stalled_plain stalls rfl rfl rfl
  | exchangeFrame target =>
      have kept := target.named_bind world.store world.store.length
      rcases bound : target.bind world.store world.store.length with ⟨view, buffers⟩
      rw [bound] at kept
      have still : ¬ { world with store := buffers }.device.isOpen := closed
      obtain ⟨events, ran⟩ := stalls_silently (Exchange.stalls_through still view)
      simp only [step, bound, ran]
      refine ⟨?_, ?_, (Device.feed_nil _).symm, kept, rfl⟩
      · simp only [Step.refusal, bound]
      · simp only [Step.shows, bound]
  | single operation =>
      have still : ¬ (prepare world [operation]).2.device.isOpen := closed
      obtain ⟨events, ran⟩ := stalls_silently (Transaction.stalls_bracketed still
        bridge.releaseOnError (Operation.runAll (prepare world [operation]).1))
      simp only [step, Transaction.run, ran]
      have kept := Operation.named_bindAll world.store [operation]
      exact ⟨rfl, rfl, (Device.feed_nil _).symm, kept, rfl⟩
  | transaction operations =>
      have still : ¬ (prepare world operations).2.device.isOpen := closed
      have stalls := Transaction.stalls_bracketed still bridge.releaseOnError
        (Operation.runAll (prepare world operations).1)
      exact stalled_many stalls rfl rfl rfl
  | closingTransaction operations =>
      have still : ¬ (prepare world operations).2.device.isOpen := closed
      have stalls := Transaction.stalls_bracketed still bridge.releaseOnError
        (Operation.runAll (prepare world operations).1)
      exact stalled_many (Line.stalls_closing still stalls) rfl rfl rfl
  | closingCall data count =>
      have stalls := (Line.stalls_send closed data).stop fun _ => Value.bytes <$> Line.receive count
      exact stalled_plain (Line.stalls_closing closed stalls) rfl rfl rfl
  | exchange source pieceSize =>
      have kept := source.named_bind world.store world.store.length
      rcases bound : source.bind world.store world.store.length with ⟨view, buffers⟩
      rw [bound] at kept
      have still : ¬ { world with store := buffers }.device.isOpen := closed
      obtain ⟨events, ran⟩ := (Transaction.stalls_exchange still bridge.releaseOnError
        (buffers.load view) pieceSize).map Value.bytes
      simp only [step, bound, step.plain]
      rw [result_bind_of_ok (result_get _), ran, Transaction.map_refusal]
      exact ⟨rfl, rfl, (Device.feed_nil _).symm, kept, rfl⟩
  | send data =>
      have stalls := stalls_silently (Line.stalls_send closed data)
      exact stalled_plain stalls rfl rfl rfl
  | receive count =>
      have stalls := (Line.stalls_receive closed count).map Value.bytes
      exact stalled_plain stalls rfl rfl rfl
  | flush =>
      have stalls := stalls_silently (Line.stalls_flush closed)
      exact stalled_plain stalls rfl rfl rfl
  | close =>
      have stalls := stalls_silently (Line.stalls_close closed)
      exact stalled_plain stalls rfl rfl rfl
  | isOpen =>
      have stalls := (Line.stalls_isOpen closed).map Value.bool
      exact stalled_plain stalls rfl rfl rfl
  | describe =>
      have stalls := Stalls.pure (Value.list [.text bridge.render, .text bridge.line.render]) world
      exact stalled_plain stalls rfl rfl rfl
  | feed data => exact ⟨rfl, rfl, rfl, rfl, rfl⟩
  | reopen => exact absurd rfl unopened
  | setRelease release => exact ⟨rfl, rfl, (Device.feed_nil _).symm, rfl, rfl⟩

end Session

end Hexwire
