import Hexwire.Proofs.Line.Dialogue

/-! # Calls on a closed line

A call on a closed line fails before it reaches the device. A toggle of chip select that succeeds
has therefore found the line open (`Hexwire.ChipSelect.isOpen_of_toggle`), and one that fails leaves
the buffers as they were, open line or not (`Hexwire.ChipSelect.store_toggle`).
-/

namespace Hexwire

/-- A device whose close succeeds is closed. -/
theorem Device.isOpen_of_close {device : Device} (succeeded : device.close.1 = .ok ()) :
    device.close.2.isOpen = false := by
  cases device with
  | scripted d =>
      cases planned : d.script.onClose d.closes with
      | none =>
          simp only [close, ScriptedDevice.close, planned]
          rfl
      | some failure => simp only [close, ScriptedDevice.close, planned, reduceCtorEq] at succeeded
  | emulated e => rfl

namespace Line

variable {world : World}

/-- On a closed line the description of what was wanted is the failure. -/
theorem result_requireOpen_of_closed (closed : ¬ world.device.isOpen) (description : String) :
    (requireOpen description).result world =
      (.error (ioFailure description).raised, world) := by
  unfold requireOpen isOpen
  simp only [Action.result_bind, Action.result_get, Action.result_pure, closed,
    Bool.false_eq_true, ↓reduceIte, Action.result_fail]

/-- On a closed line nothing is sent. -/
theorem result_send_of_closed (closed : ¬ world.device.isOpen) (data : Bytes) :
    (send data).result world =
      (.error (ioFailure "Link is not opened for writing").raised, world) :=
  Action.result_bind_of_error (result_requireOpen_of_closed closed _) _

/-- Closing reaches the device on an open line only. -/
theorem result_close (world : World) :
    close.result world =
      if world.device.isOpen then
        (world.device.close.1.mapError ofHost, { world with device := world.device.close.2 })
      else (.ok (), world) := by
  unfold close isOpen
  simp only [Action.result_bind, Action.result_get, Action.result_pure]
  by_cases opened : world.device.isOpen
  · simp only [opened, ↓reduceIte, Action.result_adapt, Action.result_onDevice]
  · simp only [opened, Bool.false_eq_true, ↓reduceIte, Action.result_pure]

/-- Closing fails only because the call of the device does. -/
theorem close_error {world after : World} {raised : Raised}
    (failed : close.result world = (.error raised, after)) :
    world.device.isOpen ∧ ∃ fault, world.device.close = (.error fault, after.device) ∧
      raised = ofHost fault := by
  rw [result_close] at failed
  by_cases opened : world.device.isOpen
  · rw [if_pos opened] at failed
    refine ⟨opened, ?_⟩
    rcases called : world.device.close with ⟨fault | ⟨⟩, device⟩
    · rw [called] at failed
      cases failed
      exact ⟨fault, rfl, rfl⟩
    · rw [called] at failed
      cases failed
  · rw [if_neg opened] at failed
    cases failed

/-- A line that has been closed is closed. -/
theorem isOpen_of_close {world after : World} (closed : close.result world = (.ok (), after)) :
    after.device.isOpen = false := by
  rw [result_close] at closed
  by_cases opened : world.device.isOpen
  · rw [if_pos opened] at closed
    rcases called : world.device.close with ⟨fault | ⟨⟩, device⟩
    · rw [called] at closed
      cases closed
    · have shut : world.device.close.2.isOpen = false :=
        Device.isOpen_of_close (congrArg Prod.fst called)
      rw [called] at closed shut
      cases closed
      exact shut
  · rw [if_neg opened] at closed
    cases closed
    exact Bool.eq_false_iff.mpr opened

end Line

namespace ChipSelect

variable {world after : World}

/-- On a closed line a toggle is announced and then fails. -/
theorem result_toggle_of_closed (closed : ¬ world.device.isOpen) :
    toggle.result world =
      (.error (Line.ioFailure "Link is not opened for writing").raised,
        { world with events := world.events ++ [.toggling] }) := by
  have still : ¬ { world with events := world.events ++ [Event.toggling] }.device.isOpen := closed
  unfold toggle Line.command
  rw [Action.result_bind_of_ok (Action.result_note _ _),
    Action.result_bind_of_error (Line.result_send_of_closed still _)]

/-- Chip select is toggled on an open line only. -/
theorem isOpen_of_toggle (toggled : toggle.result world = (.ok (), after)) :
    world.device.isOpen := by
  refine Decidable.byContradiction fun closed => ?_
  rw [result_toggle_of_closed closed] at toggled
  cases toggled

/-- A toggle leaves the buffers alone, whether it succeeds or not. -/
theorem store_toggle (world : World) : (toggle.result world).2.store = world.store := by
  by_cases opened : world.device.isOpen
  · obtain ⟨received, outcome, after, ran, -, store, -⟩ := toggle_dialogue opened
    rw [ran]
    exact store
  · rw [result_toggle_of_closed opened]

end ChipSelect

end Hexwire
