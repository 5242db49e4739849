import Hexwire.Line

/-! # Commands and chip select

Besides frames the bridge understands commands, each answered by an acknowledgement of fixed length.
One command toggles the chip-select line; the bridge alternates the line at every such command, so a
transaction is bracketed by two of them.
-/

namespace Hexwire

/-- Sends a command and checks the answer, of which as many octets are read as are expected. -/
def Line.command (request expected : Bytes) : Action Unit := do
  Line.send request
  let answer ← Line.receive expected.length
  if answer = expected then pure ()
  else Action.fail (.ofBridge .invalidResponse (some ("Received data " ++
    Text.quotedBytes answer ++ " but expected " ++ Text.quotedBytes expected)))

namespace ChipSelect

/-- The acknowledgement of the chip-select command. -/
def acknowledgement : Bytes := [0x4F, 0x4B, 0x0D, 0x0A]

/-- Toggles chip select. -/
def toggle : Action Unit := do
  Action.note .toggling
  Line.command chipSelectCommand acknowledgement

end ChipSelect

end Hexwire
