import Hexwire.Proofs.Action
import Hexwire.Transaction

/-! # Work that warns of nothing

Work is quiet when it adds no warning to the log, however it ends (`Hexwire.Action.Quiet`). Quiet
work stays quiet when it is joined, attempted or given another failure. All that happens on a line
is quiet: sending, receiving, toggling chip select, and operations one after the other
(`Hexwire.Operation.quiet_runAll`). What is left to warn is the release of chip select.
-/

namespace Hexwire

/-- An event is logged as a warning. -/
def Event.isWarning (event : Event) : Bool := event.record.level == Log.warning

/-- The warnings in the log so far. -/
def World.warnings (world : World) : List Event := world.events.filter Event.isWarning

namespace Action

/-- Work adds no warning to the log, whether it succeeds or fails. -/
def Quiet {α : Type} (action : Action α) : Prop :=
  ∀ world, (action.result world).2.warnings = world.warnings

namespace Quiet

variable {α β : Type} {action : Action α} {next : α → Action β}

theorem pure (value : α) : Quiet (Pure.pure value : Action α) := fun _ => rfl

theorem throw (raised : Raised) : Quiet (MonadExcept.throw raised : Action α) := fun _ => rfl

theorem fail (failure : Failure) : Quiet (Action.fail failure : Action α) := fun _ => rfl

theorem get : Quiet (MonadState.get : Action World) := fun _ => rfl

theorem sleep (nanoseconds : Nat) : (Action.sleep nanoseconds).Quiet := fun _ => rfl

/-- Quiet work may go on with quiet work. -/
theorem bind (first : action.Quiet) (rest : ∀ value, (next value).Quiet) :
    (action >>= next).Quiet := by
  intro world
  have kept := first world
  rw [result_bind]
  rcases ran : action.result world with ⟨raised | value, middle⟩
  · rw [ran] at kept
    exact kept
  · rw [ran] at kept
    exact (rest value middle).trans kept

/-- A change of failures leaves work quiet. -/
theorem adapt (quiet : action.Quiet) (change : Raised → Raised) :
    Quiet (ExceptT.adapt change action : Action α) := quiet

/-- A change of the buffers warns of nothing. -/
theorem rewrite (change : World → Store) :
    Quiet (modify fun world => { world with store := change world } : Action Unit) := fun _ => rfl

/-- A silent event is no warning. -/
theorem filter_of_silent {event : Event} (silent : event.isWarning = false) :
    [event].filter Event.isWarning = [] := by
  rw [List.filter_cons, silent]
  rfl

theorem note {event : Event} (silent : event.isWarning = false) : (Action.note event).Quiet := by
  intro world
  rw [result_note]
  simp only [World.warnings, List.filter_append, filter_of_silent silent, List.append_nil]

/-- A device call warns of nothing. -/
theorem onDevice (call : Device → Except Raised α × Device) : (Action.onDevice call).Quiet := by
  intro world
  rw [result_onDevice]
  rfl

/-- What an emulated bridge tells is no warning. -/
theorem warnings_told (device : Device) (event : Event) (silent : event.isWarning = false) :
    (told device event).filter Event.isWarning = [] := by
  cases device with
  | scripted d => rfl
  | emulated e => exact filter_of_silent silent

/-- A write warns of nothing. -/
theorem write (data : Bytes) : (Action.write data).Quiet := by
  intro world
  have untold := warnings_told world.device (.emulatorTook data) rfl
  rw [result_write]
  simp only [World.warnings, List.filter_append, untold, List.append_nil]

/-- A read warns of nothing. -/
theorem read (count : Nat) : (Action.read count).Quiet := by
  intro world
  rw [result_read]
  cases (world.device.read count).1 with
  | error raised => rfl
  | ok data =>
      have untold := warnings_told (world.device.read count).2 (.emulatorGave data) rfl
      simp only [World.warnings, List.filter_append, untold, List.append_nil]

end Quiet

end Action

open Hexwire.Action

namespace Line

theorem quiet_requireOpen (description : String) : (requireOpen description).Quiet := by
  unfold requireOpen isOpen
  refine (Quiet.get.bind fun _ => Quiet.pure _).bind fun opened => ?_
  split
  · exact Quiet.pure _
  · exact Quiet.fail _

theorem quiet_send (data : Bytes) : (send data).Quiet :=
  (quiet_requireOpen _).bind fun _ => (Quiet.note rfl).bind fun _ =>
    ((Quiet.write data).bind fun _ => Quiet.onDevice _).adapt _

theorem quiet_collect (count : Nat) : (collect count).Quiet := by
  induction count using Nat.strongRecOn with
  | ind count ih =>
      rw [collect]
      by_cases done : count = 0
      · rw [if_pos done]
        exact Quiet.pure _
      · rw [if_neg done]
        refine (Quiet.read count).bind fun segment => ?_
        by_cases empty : segment.length = 0
        · rw [if_pos empty]
          exact Quiet.pure _
        · rw [if_neg empty]
          exact (ih (count - segment.length) (by omega)).bind fun _ => Quiet.pure _

theorem quiet_receive (count : Int) : (receive count).Quiet := by
  refine (quiet_requireOpen _).bind fun _ => ((quiet_collect _).adapt _).bind fun data => ?_
  split
  · exact Quiet.fail _
  · exact (Quiet.note rfl).bind fun _ => Quiet.pure _

theorem quiet_command (request expected : Bytes) : (command request expected).Quiet := by
  refine (quiet_send request).bind fun _ => (quiet_receive _).bind fun answer => ?_
  split
  · exact Quiet.pure _
  · exact Quiet.fail _

end Line

/-- A toggle warns of nothing. -/
theorem ChipSelect.quiet_toggle : toggle.Quiet :=
  (Quiet.note rfl).bind fun _ => Line.quiet_command _ _

namespace Exchange

/-- An exchange warns of nothing. -/
theorem quiet_payload (data : Bytes) : (payload data).Quiet := by
  unfold payload
  split
  · exact Quiet.pure _
  · split
    · exact Quiet.throw _
    · refine (Line.quiet_send _).bind fun _ => (Quiet.sleep _).bind fun _ =>
        (Line.quiet_receive _).bind fun echo => ?_
      split
      · exact Quiet.throw _
      · exact (Quiet.note rfl).bind fun _ => Quiet.pure _

theorem quiet_through (view : View) : (through view).Quiet :=
  Quiet.get.bind fun world => (quiet_payload (world.store.load view)).bind fun _ =>
    Quiet.rewrite _

end Exchange

namespace Operation

/-- An operation warns of nothing. -/
theorem quiet_run (operation : Operation View) : operation.run.Quiet := by
  cases operation with
  | write source =>
      exact Quiet.get.bind fun _ => (Exchange.quiet_payload _).bind fun _ => Quiet.pure _
  | read target => exact (Quiet.rewrite _).bind fun _ => Exchange.quiet_through target
  | transfer target source =>
      rw [run]
      split
      · exact Quiet.get.bind fun _ => (Quiet.rewrite _).bind fun _ =>
          Exchange.quiet_through target
      · exact Quiet.fail _
  | inPlace target => exact Exchange.quiet_through target
  | delay nanoseconds => exact Quiet.sleep pause
  | unsupported value => exact Quiet.fail _

/-- Operations warn of nothing, whether they succeed or fail. -/
theorem quiet_runAll (operations : List (Operation View)) : (runAll operations).Quiet := by
  induction operations with
  | nil => exact Quiet.pure _
  | cons first rest ih => exact first.quiet_run.bind fun _ => ih

end Operation

end Hexwire
