import Hexwire.Device.Basic
import Hexwire.Text.Search

/-! # The serial line

A line is a named port at a speed. Sending writes all octets and waits until they have left;
receiving reads until all octets asked for are there and gives up as soon as a read brings nothing.
The device is opened for eight data bits without parity and one stop bit, and without flow control.
Each call checks first that the device is open. What the host's calls fail with is turned into a
failure of the transport that names the host's failure as its cause; failures that are not failures
of a host call pass unchanged.
-/

namespace Hexwire

/-- A port and its speed. -/
structure Line where
  port : String
  baudRate : Int
  deriving DecidableEq, Repr

namespace Line

/-- The speed of a line for which none is chosen. -/
def defaultBaudRate : Int := 115200

/-- How long a read or a write may take, in milliseconds. -/
def timeout : Nat := 500

/-- The line on a port; a speed that is missing or zero gives way to the default. -/
def withSpeed (port : String) (baudRate : Option Int) : Line :=
  match baudRate with
  | some speed => ⟨port, if speed = 0 then defaultBaudRate else speed⟩
  | none => ⟨port, defaultBaudRate⟩

/-- What the host is asked for when the device of a line is opened. -/
structure Opening where
  port : String
  baudRate : Int
  dataBits : Nat
  /-- The letter of the parity, where N stands for none. -/
  parity : Char
  stopBits : Nat
  /-- Whether characters on the line stop the flow. -/
  isSoftwareFlow : Bool
  /-- Whether the signal of a request to send stops the flow. -/
  isRequestFlow : Bool
  /-- Whether the signal of a device that is ready stops the flow. -/
  isReadyFlow : Bool
  /-- Milliseconds that a read may take. -/
  readTimeout : Nat
  /-- Milliseconds that a write may take. -/
  writeTimeout : Nat
  deriving DecidableEq, Repr

/-- How the device of a line is opened. -/
def opening (line : Line) : Opening where
  port := line.port
  baudRate := line.baudRate
  dataBits := 8
  parity := 'N'
  stopBits := 1
  isSoftwareFlow := false
  isRequestFlow := false
  isReadyFlow := false
  readTimeout := timeout
  writeTimeout := timeout

/-- Which ports the host is asked to list. -/
structure Enquiry where
  /-- Whether names that stand for other ports are among them. -/
  includesLinks : Bool
  deriving DecidableEq, Repr

/-- The enquiry for the ports at which a line can begin. -/
def enquiry : Enquiry := ⟨true⟩

/-- The names of the ports that the host lists. -/
def scan (listed : Enquiry → List String) : List String := listed enquiry

/-- How a line is shown. -/
def render (line : Line) : String := line.port ++ " @ " ++ toString line.baudRate ++ " baud"

/-- A failure of the line with the given description. -/
def ioFailure (description : String) : Failure := .ofBridge .io (some description)

/-- The transport failure for a failed host call. -/
def ofHost (raised : Raised) : Raised :=
  if raised.failure.isHost .os then
    (ioFailure raised.failure.message).raisedFrom raised.failure
  else raised

/-- The transport failure for a failed write, which may have run out of time. -/
def ofHostWrite (raised : Raised) : Raised :=
  if raised.failure.isHost .serialTimeout then
    (Failure.ofBridge .timeout (some ("Write timeout error. The timeout is set to " ++
      toString timeout ++ " ms."))).raisedFrom raised.failure
  else ofHost raised

/-- The transport failure for a port that cannot be opened: access is denied when the host says so
by the kind of its failure or in its text. -/
def ofHostOpen (port : String) (failure : Failure) : Raised :=
  if failure.isHost .os || failure.isHost .value then
    let text := failure.message
    if failure.isHost .permission || Text.mentions text "PermissionError" ||
        Text.mentions text "Permission denied" then
      (Failure.ofBridge .permission (some ("Could not open port '" ++ port ++
        "'. Access denied."))).raisedFrom failure
    else (ioFailure text).raisedFrom failure
  else failure.raised

/-- Whether the device is open. -/
def isOpen : Action Bool := do pure (← get).device.isOpen

/-- Fails with the given description unless the device is open. -/
def requireOpen (description : String) : Action Unit := do
  if ← isOpen then pure () else Action.fail (ioFailure description)

/-- Waits until everything written has left. -/
def flush : Action Unit := do
  requireOpen "Link is not opened"
  (Action.onDevice Device.flush).adapt ofHost

/-- Sends octets. -/
def send (data : Bytes) : Action Unit := do
  requireOpen "Link is not opened for writing"
  Action.note (.sending data)
  ExceptT.adapt ofHostWrite do
    Action.write data
    Action.onDevice Device.flush

/-- Reads until the given count of octets is there or a read brings nothing. -/
def collect (count : Nat) : Action Bytes :=
  if count = 0 then pure []
  else do
    let segment ← Action.read count
    if segment.length = 0 then pure []
    else do
      let rest ← collect (count - segment.length)
      pure (segment ++ rest)
termination_by count

/-- Receives exactly the given count of octets; a negative count asks for none. -/
def receive (count : Int) : Action Bytes := do
  requireOpen "Link is not opened for reading"
  let data ← ExceptT.adapt ofHost (collect count.toNat)
  if (data.length : Int) < count then
    Action.fail (.ofBridge .timeout (some ("Received " ++ toString data.length ++ " of " ++
      toString count ++ " bytes within " ++ toString timeout ++ " ms")))
  else do
    Action.note (.received data)
    pure data

/-- Closes the device if it is open. -/
def close : Action Unit := do
  if ← isOpen then ExceptT.adapt ofHost (Action.onDevice Device.close)

/-- The device that a peer offers on the port of a line. -/
def connect (line : Line) (peer : Peer) : Except Raised Device :=
  peer.connect.mapError (ofHostOpen line.port)

/-- The work that follows the connection: the line is reported and what may still be on it
leaves. -/
def start (line : Line) : Action Unit := do
  Action.note (.opened line.port line.baudRate)
  flush

/-- Work on a line that is closed afterwards, whether the work fails or not. A failure of the
closing takes the place of the outcome of the work. -/
def closing {α : Type} (work : Action α) : Action α := do
  let outcome ← work.attempt
  close
  match outcome with
  | .ok value => pure value
  | .error raised => throw raised

end Line

end Hexwire
