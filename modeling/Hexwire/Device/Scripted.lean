import Hexwire.Value.Basic

/-! # Scripted devices

A scripted device has a queue of received octets and a script that fixes, call by call, which calls
fail and how many octets a read may return. Calls are counted per kind of call from zero. A call
that fails does nothing else. The device itself never checks whether it is open.
-/

namespace Hexwire

/-- What one read call does: it fails, or it returns octets up to a limit. -/
inductive ReadPlan where
  | fail (failure : Failure)
  | give (limit : Option Nat)

/-- What a device does at each of its calls. -/
structure Script where
  onOpen : Option Failure
  onWrite : Nat → Option Failure
  onRead : Nat → ReadPlan
  onFlush : Nat → Option Failure
  onClose : Nat → Option Failure

/-- A device that follows a script. -/
structure ScriptedDevice where
  script : Script
  queue : Bytes
  isOpen : Bool := true
  written : List Bytes := []
  writes : Nat := 0
  reads : Nat := 0
  flushes : Nat := 0
  closes : Nat := 0

namespace ScriptedDevice

/-- Writes octets: they are recorded unless the call fails. -/
def write (d : ScriptedDevice) (data : Bytes) : Except Raised Unit × ScriptedDevice :=
  let counted := { d with writes := d.writes + 1 }
  match d.script.onWrite d.writes with
  | some failure => (.error failure.raised, counted)
  | none => (.ok (), { counted with written := d.written ++ [data] })

/-- Reads at most the given count of octets from the head of the queue. -/
def read (d : ScriptedDevice) (count : Nat) : Except Raised Bytes × ScriptedDevice :=
  let counted := { d with reads := d.reads + 1 }
  match d.script.onRead d.reads with
  | .fail failure => (.error failure.raised, counted)
  | .give limit =>
    let size := match limit with
      | some most => min count most
      | none => count
    (.ok (d.queue.take size), { counted with queue := d.queue.drop size })

/-- Waits until what was written has left. -/
def flush (d : ScriptedDevice) : Except Raised Unit × ScriptedDevice :=
  let counted := { d with flushes := d.flushes + 1 }
  match d.script.onFlush d.flushes with
  | some failure => (.error failure.raised, counted)
  | none => (.ok (), counted)

/-- Closes the device; a call that fails leaves it as it was. -/
def close (d : ScriptedDevice) : Except Raised Unit × ScriptedDevice :=
  let counted := { d with closes := d.closes + 1 }
  match d.script.onClose d.closes with
  | some failure => (.error failure.raised, counted)
  | none => (.ok (), { counted with isOpen := false })

end ScriptedDevice

end Hexwire
