import Hexwire.Buffer.Store
import Hexwire.Device.Emulator
import Hexwire.Device.Scripted
import Hexwire.Event

/-! # Serial devices and actions on them

A serial device is scripted or emulated. An action runs against a world made of the device, the
buffers, the sleeps requested and the events so far; an action that fails keeps the world it has
reached, since octets written and read are not taken back.
-/

namespace Hexwire

/-- A serial device. -/
inductive Device where
  | scripted (device : ScriptedDevice)
  | emulated (device : Emulator)

namespace Device

/-- Whether the device is open. -/
def isOpen : Device → Bool
  | scripted d => d.isOpen
  | emulated e => e.isOpen

/-- The octets waiting to be read. -/
def queue : Device → Bytes
  | scripted d => d.queue
  | emulated e => e.queue

/-- Everything written, call by call. -/
def written : Device → List Bytes
  | scripted d => d.written
  | emulated e => e.written

/-- Writes octets. -/
def write : Device → Bytes → Except Raised Unit × Device
  | scripted d, data => let (result, after) := d.write data; (result, scripted after)
  | emulated e, data =>
    let (result, after) := e.write data
    (result.map fun _ => (), emulated after)

/-- Reads at most the given count of octets. -/
def read : Device → Nat → Except Raised Bytes × Device
  | scripted d, count => let (result, after) := d.read count; (result, scripted after)
  | emulated e, count => let (segment, after) := e.read count; (.ok segment, emulated after)

/-- Waits until what was written has left. -/
def flush : Device → Except Raised Unit × Device
  | scripted d => let (result, after) := d.flush; (result, scripted after)
  | emulated e => (.ok (), emulated e)

/-- Closes the device. -/
def close : Device → Except Raised Unit × Device
  | scripted d => let (result, after) := d.close; (result, scripted after)
  | emulated e => (.ok (), emulated e.close)

/-- Opens the device again without any of the work of opening a line. -/
def reopen : Device → Device
  | scripted d => scripted { d with isOpen := true }
  | emulated e => emulated e.reopen

/-- Adds octets to the queue of a scripted device. -/
def feed : Device → Bytes → Device
  | scripted d, data => scripted { d with queue := d.queue ++ data }
  | emulated e, _ => emulated e

end Device

/-- What stands at the other end of a port. -/
inductive Peer where
  | scripted (script : Script) (incoming : Bytes)
  | emulated (behaviour : Emulator.Behaviour)

/-- The device that opening a port yields, unless the host fails to open it. -/
def Peer.connect : Peer → Except Failure Device
  | scripted script incoming =>
    match script.onOpen with
    | some failure => .error failure
    | none => .ok (.scripted { script := script, queue := incoming })
  | emulated behaviour => .ok (.emulated { behaviour := behaviour })

/-- What an action runs against. -/
structure World where
  device : Device
  store : Store := []
  sleeps : List Nat := []
  events : List Event := []

/-- Work that may fail and that keeps the world it has reached when it does. -/
abbrev Action := ExceptT Raised (StateM World)

namespace Action

/-- The result of an action with the world after it. -/
def result {α : Type} (action : Action α) (world : World) : Except Raised α × World :=
  (ExceptT.run action).run world

/-- Notes an event. -/
def note (event : Event) : Action Unit :=
  modify fun world => { world with events := world.events ++ [event] }

/-- Requests a sleep of the given nanoseconds. -/
def sleep (nanoseconds : Nat) : Action Unit :=
  modify fun world => { world with sleeps := world.sleeps ++ [nanoseconds] }

/-- The result of an action as a value, so that its failure does not end the work. -/
def attempt {α : Type} (action : Action α) : Action (Except Raised α) :=
  ExceptT.mk (Except.ok <$> ExceptT.run action)

/-- Fails with a failure that has no cause. -/
def fail {α : Type} (failure : Failure) : Action α := throw failure.raised

/-- Runs a device call against the device of the world. -/
def onDevice {α : Type} (call : Device → Except Raised α × Device) : Action α := do
  let world ← get
  let (result, after) := call world.device
  set { world with device := after }
  match result with
  | .ok value => pure value
  | .error raised => throw raised

/-- Writes octets to the device; an emulated bridge tells what it was given. -/
def write (data : Bytes) : Action Unit := do
  if let .emulated _ := (← get).device then note (.emulatorTook data)
  onDevice (·.write data)

/-- Reads at most the given count of octets from the device; an emulated bridge tells what it
gave. -/
def read (count : Nat) : Action Bytes := do
  let data ← onDevice (·.read count)
  if let .emulated _ := (← get).device then note (.emulatorGave data)
  pure data

end Action

end Hexwire
