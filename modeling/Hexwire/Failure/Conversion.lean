import Hexwire.Log.Record
import Hexwire.Value.Printer

/-! # Failures across the two layers

The secure-element layer sits on the transport. It reports a failure of the transport as a bus error
whose payload is that failure; the transport reports a failure of the secure element as a failure
that carries it, with kind and payload unchanged. The bridge has no pin for chip select that could
fail, so a pin failure becomes an invalid response, and as the response tells nothing of the pin, a
log record does.
-/

namespace Hexwire.Failure

/-- The transport failure for a secure-element failure of the given kind and payload. A bus error
names the transport failure in its payload as its cause. -/
def toTransport (kind : DeviceKind) (payload : Value) : Raised :=
  match kind, payload with
  | .gpioError, _ => (ofBridge .invalidResponse none).raised
  | .busError, .failure inner => (carried .busError payload).raisedFrom inner
  | kind, payload => (carried kind payload).raised

/-- What is logged where a secure-element failure becomes one of the transport. -/
def conversionRecords (kind : DeviceKind) (payload : Value) : List Log.Record :=
  match kind with
  | .gpioError => [⟨Log.debug, "hexspi.bridge.error_mapper",
      "GPIO error reported by device layer: " ++ (device kind payload).message⟩]
  | _ => []

end Hexwire.Failure
