import Hexwire.Log.Record
import Hexwire.Value.Printer

/-! # Events on the line

What the layers between a payload and the serial device do is told by events. Each event is a log
record of a fixed level and logger; sent and received octets appear in it as digit pairs, between
square brackets when sent and between angle brackets when received.
-/

namespace Hexwire

/-- Something that happened between a payload and the serial device. -/
inductive Event where
  /-- The port was opened. -/
  | opened (port : String) (baudRate : Int)
  /-- Octets are about to be written to the device. -/
  | sending (data : Bytes)
  /-- All octets asked for have arrived. -/
  | received (data : Bytes)
  /-- Chip select is about to be toggled. -/
  | toggling
  /-- A frame went out and its echo came back. -/
  | transferred (size : Nat)
  /-- A payload is about to travel in several frames. -/
  | exchanging (size frames : Nat)
  /-- Chip select could not be released after a failure. -/
  | releaseFailed (failure : Failure)
  /-- The emulated bridge was given octets. -/
  | emulatorTook (data : Bytes)
  /-- The emulated bridge gave octets back. -/
  | emulatorGave (data : Bytes)

namespace Event

/-- The log record of an event. -/
def record : Event → Log.Record
  | opened port baudRate =>
    ⟨Log.debug, "hexspi.bridge.link",
      "Opened serial link " ++ port ++ " @ " ++ toString baudRate ++ " baud"⟩
  | sending data => ⟨Log.debug, "hexspi.bridge.link", "[" ++ Hex.spaced data ++ "]"⟩
  | received data => ⟨Log.debug, "hexspi.bridge.link", "<" ++ Hex.spaced data ++ ">"⟩
  | toggling => ⟨Log.debug, "hexspi.bridge.commands", "Toggle chip select"⟩
  | transferred size =>
    ⟨Log.debug, "hexspi.bridge.transfer", "Transferred " ++ toString size ++ " bytes"⟩
  | exchanging size frames =>
    ⟨Log.debug, "hexspi.bridge.spi",
      "Exchanging " ++ toString size ++ " bytes in " ++ toString frames ++ " frame(s)"⟩
  | releaseFailed failure =>
    ⟨Log.warning, "hexspi.bridge.spi",
      "Failed to release chip select after error: " ++ failure.message⟩
  | emulatorTook data =>
    ⟨Log.debug, "hexspi.utils.serial_proxy", "I got: " ++ Text.quotedBytes data⟩
  | emulatorGave data =>
    ⟨Log.debug, "hexspi.utils.serial_proxy",
      "I responded with: '" ++ Text.quotedBytes data ++ "'"⟩

end Event

end Hexwire
