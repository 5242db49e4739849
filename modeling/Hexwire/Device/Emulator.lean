import Hexwire.Frame

/-! # The emulated bridge

The emulator plays the firmware of the bridge. The chip-select command toggles the line and is
acknowledged. Anything else that ends in the frame terminator is taken as a frame: its payload is
handed to the peripheral and the peripheral's answer is echoed with a terminator. Whatever else is
written is recorded and not answered. Answers queue up until they are read.
-/

namespace Hexwire

/-- What the peripheral clocks in for a payload clocked out; it may fail. -/
abbrev Peripheral := Bytes → Except Failure Bytes

namespace Peripheral

/-- A peripheral that answers with the given function of the payload. -/
def ofFunction (answer : Bytes → Bytes) : Peripheral := fun payload => .ok (answer payload)

/-- Every bit inverted. -/
def inverting : Peripheral := ofFunction fun payload => payload.map fun octet => octet ^^^ 0xFF

/-- The payload in reverse order. -/
def reversing : Peripheral := ofFunction List.reverse

/-- As many zeros. -/
def zeroing : Peripheral := ofFunction fun payload => payload.map fun _ => 0

/-- Every octet increased by one. -/
def incrementing : Peripheral := ofFunction fun payload => payload.map fun octet => octet + 1

/-- The payload without its last octet. -/
def dropping : Peripheral := ofFunction List.dropLast

/-- The payload with a zero appended. -/
def extending : Peripheral := ofFunction fun payload => payload ++ [0]

/-- Nothing at all. -/
def silent : Peripheral := ofFunction fun _ => []

/-- Octets with every second one replaced by zero, starting with the second. -/
def zeroOddly : Bytes → Bytes
  | even :: _ :: rest => even :: 0 :: zeroOddly rest
  | rest => rest

/-- Zeros at odd positions. -/
def zeroingOdd : Peripheral := ofFunction zeroOddly

/-- A failure at every payload. -/
def failing : Peripheral := fun _ => .error (.ofText .runtime "responder failed")

end Peripheral

/-- How an emulated bridge behaves: the peripheral behind it, if any, its acknowledgement of the
chip-select command and the terminator of its echoes. -/
structure Emulator.Behaviour where
  peripheral : Option Peripheral := none
  acknowledgement : Bytes := [0x4F, 0x4B, 0x0D, 0x0A]
  echoTerminator : Bytes := Frame.terminator

/-- The state of an emulated bridge. -/
structure Emulator where
  behaviour : Emulator.Behaviour
  queue : Bytes := []
  isOpen : Bool := true
  written : List Bytes := []
  selected : Bool := false
  toggles : Nat := 0

/-- The command that toggles chip select. -/
def chipSelectCommand : Bytes := [0x43, 0x53, 0x3D, 0x30, 0x0A]

namespace Emulator

/-- The first octet outside ASCII, with its position. -/
def nonAscii? (position : Nat) : Bytes → Option (Nat × UInt8)
  | [] => none
  | octet :: rest => if octet < 0x80 then nonAscii? (position + 1) rest else some (position, octet)

/-- The payload that the digits of a frame denote, blanks between pairs skipped. -/
def payloadOf (digits : Bytes) : Except Failure Bytes :=
  match nonAscii? 0 digits with
  | some (position, octet) =>
    .error (.ofText .unicodeDecode ("'ascii' codec can't decode byte 0x" ++
      Hex.padded 2 octet.toNat ++ " in position " ++ toString position ++
      ": ordinal not in range(128)"))
  | none => match Hex.parse (digits.map Hex.charOfOctet) with
    | .ok payload => .ok payload
    | .error fault => .error fault.failure

/-- What the bridge queues for a write, and whether the write toggles chip select. -/
def answer (behaviour : Behaviour) (data : Bytes) : Except Failure (Bytes × Bool) :=
  if data = chipSelectCommand then .ok (behaviour.acknowledgement, true)
  else if Frame.terminator.isSuffixOf data then
    match payloadOf (data.take (data.length - Frame.terminator.length)) with
    | .error failure => .error failure
    | .ok payload =>
      let clockedIn := match behaviour.peripheral with
        | some peripheral => peripheral payload
        | none => .ok payload
      match clockedIn with
      | .error failure => .error failure
      | .ok response => .ok (Hex.encodeUpper response ++ behaviour.echoTerminator, false)
  else .ok ([], false)

/-- Takes octets and queues the answer. A write that fails is recorded all the same and changes
nothing else. -/
def write (e : Emulator) (data : Bytes) : Except Raised Nat × Emulator :=
  let recorded := { e with written := e.written ++ [data] }
  match answer e.behaviour data with
  | .error failure => (.error failure.raised, recorded)
  | .ok (queued, toggled) =>
    (.ok data.length, { recorded with
      queue := e.queue ++ queued
      selected := if toggled then !e.selected else e.selected
      toggles := if toggled then e.toggles + 1 else e.toggles })

/-- Reads octets from the head of the queue; a negative count leaves that many octets at its end. -/
def read (e : Emulator) (count : Int) : Bytes × Emulator :=
  let (segment, rest) := cutAt e.queue count
  (segment, { e with queue := rest })

/-- Opens the port. -/
def reopen (e : Emulator) : Emulator := { e with isOpen := true }

/-- Closes the port; what is queued stays queued. -/
def close (e : Emulator) : Emulator := { e with isOpen := false }

/-- Forgets the queued answers. -/
def discard (e : Emulator) : Emulator := { e with queue := [] }

/-- What a port can be asked to do. -/
inductive Call where
  | write (data : Bytes)
  | read (count : Int)
  | discard
  | flush
  | reopen
  | close
  | describe

/-- What a call gives back. -/
inductive Answer where
  | nothing
  | count (n : Nat)
  | data (octets : Bytes)
  | description (text : String)

/-- Carries a call out. -/
def call (e : Emulator) : Call → Except Raised Answer × Emulator
  | .write data =>
    match e.write data with
    | (.ok n, after) => (.ok (.count n), after)
    | (.error raised, after) => (.error raised, after)
  | .read count => let (segment, after) := e.read count; (.ok (.data segment), after)
  | .discard => (.ok .nothing, e.discard)
  | .flush => (.ok .nothing, e)
  | .reopen => (.ok .nothing, e.reopen)
  | .close => (.ok .nothing, e.close)
  | .describe => (.ok (.description "BridgeSerialProxy"), e)

/-- Carries calls out in order and gives each result with the state after it. -/
def run (e : Emulator) : List Call → List (Except Raised Answer × Emulator)
  | [] => []
  | first :: rest =>
    let (result, after) := e.call first
    (result, after) :: run after rest

end Emulator

end Hexwire
