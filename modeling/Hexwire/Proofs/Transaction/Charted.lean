import Hexwire.Proofs.Line.Course
import Hexwire.Transaction

/-! # Work that takes a course

Work is charted when it always takes a course (`Hexwire.Action.Charted`): it touches the wire in no
other way than by sending and receiving on the line. Charted work stays charted when it is joined,
attempted or given another failure, and so all work on a line is charted, up to whole transactions
and exchanges, whatever fails on the way.
-/

namespace Hexwire

namespace Action

/-- Work always takes a course, whether it succeeds or fails. -/
def Charted {α : Type} (action : Action α) : Prop :=
  ∀ world, ∃ hearings, Course world hearings (action.result world).2

namespace Charted

variable {α β : Type} {action : Action α} {next : α → Action β}

theorem pure (value : α) : Charted (Pure.pure value : Action α) := fun world => ⟨[], .done world⟩

theorem throw (raised : Raised) : Charted (MonadExcept.throw raised : Action α) :=
  fun world => ⟨[], .done world⟩

theorem fail (failure : Failure) : Charted (Action.fail failure : Action α) :=
  fun world => ⟨[], .done world⟩

theorem get : Charted (MonadState.get : Action World) := fun world => ⟨[], .done world⟩

/-- What happens aside of the wire takes the empty course. -/
theorem ofAside (aside : ∀ world, Aside world (action.result world).2) : action.Charted :=
  fun world => ⟨[], .aside (aside world) (.done _)⟩

theorem sleep (nanoseconds : Nat) : (Action.sleep nanoseconds).Charted :=
  .ofAside fun _ => ⟨.refl _, rfl, rfl⟩

/-- A change of the buffers takes the empty course. -/
theorem rewrite (change : World → Store) :
    Charted (modify fun world => { world with store := change world } : Action Unit) :=
  .ofAside fun _ => ⟨.refl _, rfl, rfl⟩

/-- A device call that leaves the wire alone takes the empty course. -/
theorem onDevice (call : Device → Except Raised α × Device)
    (still : ∀ device : Device, device.Still (call device).2) :
    (Action.onDevice call).Charted :=
  .ofAside fun world => by
    rw [result_onDevice]
    exact ⟨still world.device, rfl, rfl⟩

/-- A note that tells nothing of the wire. -/
theorem note {event : Event} (unsent : event.handed? = none) (unheard : event.heard? = none) :
    (Action.note event).Charted :=
  .ofAside fun world => ⟨.refl _, by simp [World.handed, unsent], by simp [World.heard, unheard]⟩

/-- The courses of work in a row follow each other. -/
theorem bind (first : action.Charted) (rest : ∀ value, (next value).Charted) :
    (action >>= next).Charted := by
  intro world
  obtain ⟨hearings, course⟩ := first world
  rw [result_bind]
  rcases ran : action.result world with ⟨raised | value, middle⟩
  · rw [ran] at course
    exact ⟨hearings, course⟩
  · rw [ran] at course
    obtain ⟨others, further⟩ := rest value middle
    exact ⟨hearings ++ others, course.trans further⟩

/-- A change of failures leaves the course as it is. -/
theorem adapt (charted : action.Charted) (change : Raised → Raised) :
    Charted (ExceptT.adapt change action : Action α) := charted

/-- An attempt takes the course of what it attempts. -/
theorem attempt (charted : action.Charted) : action.attempt.Charted := charted

/-- A change of the value leaves the course as it is. -/
theorem map (charted : action.Charted) (change : α → β) : Charted (change <$> action) := by
  rw [map_eq_pure_bind]
  exact charted.bind fun _ => .pure _

end Charted

end Action

open Hexwire.Action

namespace Line

/-- Sending takes the course of its octets. -/
theorem charted_send (data : Bytes) : (send data).Charted := by
  intro world
  rcases sent : (send data).result world with ⟨outcome, after⟩
  exact ⟨[], .send data sent (.done after)⟩

/-- Receiving takes the course of its readings. -/
theorem charted_receive (count : Int) : (receive count).Charted := by
  intro world
  by_cases opened : world.device.isOpen
  · obtain ⟨readings, gathered, after, ran, reads, gathers, -⟩ := receive_gathers opened count
    obtain ⟨hearing, same, taken⟩ := gathers.exists_hearing count
    rw [same] at ran
    rw [ran]
    exact ⟨[hearing], .receive count ran reads taken (.done _)⟩
  · have refused : (receive count).result world =
        (.error (ioFailure "Link is not opened for reading").raised, world) :=
      Action.result_bind_of_error (result_requireOpen_of_closed opened _) _
    rw [refused]
    exact ⟨[.broken [] _], .receive count refused (.nil _) rfl (.done _)⟩

theorem charted_isOpen : isOpen.Charted := Charted.get.bind fun _ => .pure _

theorem charted_requireOpen (description : String) : (requireOpen description).Charted :=
  charted_isOpen.bind fun opened => by
    split
    · exact .pure _
    · exact .fail _

theorem charted_flush : flush.Charted :=
  (charted_requireOpen _).bind fun _ => (Charted.onDevice _ Device.flush_still).adapt _

theorem charted_close : close.Charted :=
  charted_isOpen.bind fun opened => by
    split
    · exact (Charted.onDevice _ Device.close_still).adapt _
    · exact .pure _

/-- Work on a line that then closes takes the course of the work. -/
theorem charted_closing {α : Type} {work : Action α} (charted : work.Charted) :
    (closing work).Charted :=
  charted.attempt.bind fun outcome => charted_close.bind fun _ => by
    cases outcome with
    | ok value => exact .pure _
    | error raised => exact .throw _

/-- A command takes the course of its request and its answer. -/
theorem charted_command (request expected : Bytes) : (command request expected).Charted :=
  (charted_send request).bind fun _ => (charted_receive _).bind fun answer => by
    split
    · exact .pure _
    · exact .fail _

end Line

/-- A toggle takes the course of its command. -/
theorem ChipSelect.charted_toggle : toggle.Charted :=
  (Charted.note rfl rfl).bind fun _ => Line.charted_command _ _

namespace Exchange

/-- An exchange takes the course of its frame and its echo. -/
theorem charted_payload (data : Bytes) : (payload data).Charted := by
  unfold payload
  split
  · exact .pure _
  · split
    · exact .throw _
    · refine (Line.charted_send _).bind fun _ => (Charted.sleep _).bind fun _ =>
        (Line.charted_receive _).bind fun echo => ?_
      split
      · exact .throw _
      · exact (Charted.note rfl rfl).bind fun _ => .pure _

theorem charted_through (view : View) : (through view).Charted :=
  Charted.get.bind fun world => (charted_payload (world.store.load view)).bind fun _ =>
    .rewrite _

end Exchange

namespace Operation

/-- An operation takes the course of its exchange. -/
theorem charted_run (operation : Operation View) : operation.run.Charted := by
  cases operation with
  | write source =>
      exact Charted.get.bind fun _ => (Exchange.charted_payload _).bind fun _ => .pure _
  | read target => exact (Charted.rewrite _).bind fun _ => Exchange.charted_through target
  | transfer target source =>
      rw [run]
      split
      · exact Charted.get.bind fun _ => (Charted.rewrite _).bind fun _ =>
          Exchange.charted_through target
      · exact .fail _
  | inPlace target => exact Exchange.charted_through target
  | delay nanoseconds => exact .sleep pause
  | unsupported value => exact .fail _

/-- Operations in a row take their courses one after another. -/
theorem charted_runAll (operations : List (Operation View)) : (runAll operations).Charted := by
  induction operations with
  | nil => exact .pure _
  | cons first rest ih => exact first.charted_run.bind fun _ => ih

end Operation

namespace Transaction

theorem charted_release : release.Charted :=
  ChipSelect.charted_toggle.attempt.bind fun outcome => by
    cases outcome with
    | ok _ => exact .pure _
    | error raised =>
        dsimp only
        split
        · exact .note rfl rfl
        · exact .throw _

/-- Work between two toggles is charted if the work is, whether chip select is released or not. -/
theorem charted_bracketed {α : Type} {work : Action α} (charted : work.Charted)
    (releaseOnError : Bool) : (bracketed releaseOnError work).Charted :=
  ChipSelect.charted_toggle.bind fun _ => charted.attempt.bind fun outcome => by
    cases outcome with
    | ok value => exact ChipSelect.charted_toggle.bind fun _ => .pure _
    | error raised =>
        dsimp only
        split
        · exact charted_release.bind fun _ => .throw raised
        · exact .throw raised

/-- A transaction takes the courses of its toggles and its operations. -/
theorem charted_run (releaseOnError : Bool) (operations : List (Operation View)) :
    (run releaseOnError operations).Charted :=
  charted_bracketed (Operation.charted_runAll operations) releaseOnError

/-- Exchanges of pieces take their courses one after another. -/
theorem charted_exchangeAll (pieces : List Bytes) : (exchangeAll pieces).Charted := by
  induction pieces with
  | nil => exact .pure _
  | cons first rest ih =>
      exact (Exchange.charted_payload first).bind fun _ => ih.bind fun _ => .pure _

/-- An exchange in pieces takes the courses of its toggles and its pieces. -/
theorem charted_exchange (releaseOnError : Bool) (data : Bytes) (pieceSize : Int) :
    (exchange releaseOnError data pieceSize).Charted := by
  unfold exchange
  split
  · exact (Charted.note rfl rfl).bind fun _ =>
      (charted_bracketed (charted_exchangeAll _) releaseOnError).bind fun _ => .pure _
  · exact .fail _

end Transaction

end Hexwire
