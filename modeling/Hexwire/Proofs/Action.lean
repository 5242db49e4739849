import Hexwire.Device.Basic

/-! # Results of actions

The result of an action is computed step by step: a bind passes the world on or stops at the first
failure, an attempt turns the failure into a value and keeps the world, and a device call changes
nothing but the device and what an emulated bridge tells. Nothing after these equations opens the
monad again.
-/

namespace Hexwire

/-- Whether an outcome is a given success can be decided if it can for what succeeded. -/
instance decidableOk {ε α : Type} (outcome : Except ε α) (value : α)
    [∀ other : α, Decidable (other = value)] : Decidable (outcome = .ok value) :=
  match outcome with
  | .ok other => decidable_of_iff (other = value) ⟨congrArg Except.ok, Except.ok.inj⟩
  | .error _ => .isFalse nofun

namespace Action

variable {α β : Type} {action : Action α} {world after : World}

@[simp]
theorem result_pure (value : α) (world : World) :
    result (pure value : Action α) world = (.ok value, world) := rfl

@[simp]
theorem result_get (world : World) : result (get : Action World) world = (.ok world, world) := rfl

@[simp]
theorem result_modify (change : World → World) (world : World) :
    result (modify change : Action Unit) world = (.ok (), change world) := rfl

@[simp]
theorem result_throw (raised : Raised) (world : World) :
    result (throw raised : Action α) world = (.error raised, world) := rfl

@[simp]
theorem result_fail (failure : Failure) (world : World) :
    result (fail failure : Action α) world = (.error failure.raised, world) := rfl

/-- An event goes to the end of those before it. -/
@[simp]
theorem result_note (event : Event) (world : World) :
    (note event).result world = (.ok (), { world with events := world.events ++ [event] }) := rfl

/-- A pause goes to the end of those before it. -/
@[simp]
theorem result_sleep (nanoseconds : Nat) (world : World) :
    (sleep nanoseconds).result world =
      (.ok (), { world with sleeps := world.sleeps ++ [nanoseconds] }) := rfl

/-- An attempt succeeds with the outcome of what it attempts. -/
@[simp]
theorem result_attempt (action : Action α) (world : World) :
    action.attempt.result world = (.ok (action.result world).1, (action.result world).2) := rfl

/-- A change of failures leaves success and world alone. -/
@[simp]
theorem result_adapt (change : Raised → Raised) (action : Action α) (world : World) :
    result (ExceptT.adapt change action : Action α) world =
      ((action.result world).1.mapError change, (action.result world).2) := rfl

/-- What follows runs on the world that was reached, unless a failure ends both. -/
theorem result_bind (action : Action α) (next : α → Action β) (world : World) :
    (action >>= next).result world =
      match action.result world with
      | (.ok value, after) => (next value).result after
      | (.error raised, after) => (.error raised, after) := by
  change (match action.result world with
    | (outcome, after) => (ExceptT.bindCont next outcome).run after) = _
  rcases action.result world with ⟨outcome, after⟩
  cases outcome <;> rfl

/-- After a step that succeeds, the rest runs in the world that the step reached. -/
theorem result_bind_of_ok {value : α} (ran : action.result world = (.ok value, after))
    (next : α → Action β) : (action >>= next).result world = (next value).result after := by
  rw [result_bind, ran]

/-- A step that fails ends the work. -/
theorem result_bind_of_error {raised : Raised} (ran : action.result world = (.error raised, after))
    (next : α → Action β) : (action >>= next).result world = (.error raised, after) := by
  rw [result_bind, ran]

/-- A change of the value leaves failure and world alone. -/
theorem result_map (change : α → β) (action : Action α) (world : World) :
    result (change <$> action : Action β) world =
      ((action.result world).1.map change, (action.result world).2) := by
  rw [map_eq_pure_bind, result_bind]
  rcases action.result world with ⟨raised | value, after⟩ <;> rfl

/-- A device call changes nothing but the device. -/
theorem result_onDevice (call : Device → Except Raised α × Device) (world : World) :
    (onDevice call).result world =
      ((call world.device).1, { world with device := (call world.device).2 }) := by
  unfold onDevice
  simp only [result_bind, result_get]
  rcases call world.device with ⟨outcome, after⟩
  cases outcome <;> rfl

/-- An event that only an emulated bridge tells. -/
def told : Device → Event → List Event
  | .scripted _, _ => []
  | .emulated _, event => [event]

/-- A write changes the device and tells what an emulated bridge tells. -/
theorem result_write (data : Bytes) (world : World) :
    (write data).result world =
      ((world.device.write data).1,
        { world with
          device := (world.device.write data).2
          events := world.events ++ told world.device (.emulatorTook data) }) := by
  rcases world with ⟨d | e, store, sleeps, events⟩
  · simp only [told, List.append_nil]
    exact result_onDevice (·.write data) ⟨.scripted d, store, sleeps, events⟩
  · exact result_onDevice (·.write data)
      ⟨.emulated e, store, sleeps, events ++ [.emulatorTook data]⟩

/-- A read changes the device and tells what an emulated bridge tells. -/
theorem result_read (count : Nat) (world : World) :
    (read count).result world =
      ((world.device.read count).1,
        { world with
          device := (world.device.read count).2
          events := match (world.device.read count).1 with
            | .ok data => world.events ++ told (world.device.read count).2 (.emulatorGave data)
            | .error _ => world.events }) := by
  unfold read
  rw [result_bind, result_onDevice]
  rcases world.device.read count with ⟨_ | data, d | e⟩
  · rfl
  · rfl
  · simp only [told, List.append_nil]
    rfl
  · rfl

end Action

end Hexwire
