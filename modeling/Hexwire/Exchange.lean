import Hexwire.ChipSelect
import Hexwire.Sequence.Chunks

/-! # Exchanges

An exchange sends one frame and reads an echo of the same size, whose payload is what the peripheral
clocked in. The bridge needs a moment between the two. An empty payload is not sent at all.
-/

namespace Hexwire.Exchange

/-- The pause between a frame and its echo, in nanoseconds. -/
def settleTime : Nat := 10000000

/-- What is raised for an echo that does not end in a terminator. -/
def unterminated (echo : Bytes) : Failure :=
  .ofBridge .invalidResponse (some ("Invalid frame terminator " ++
    Text.quotedBytes (echo.drop (echo.length - 2))))

/-- The payload of an echo to a payload of the given size. -/
def ofEcho (echo : Bytes) (size : Nat) : Except Raised Bytes :=
  if Frame.isTerminated echo then
    match Frame.decode echo size with
    | .ok frame => .ok frame.payload
    | .error fault => .error fault.raised
  else .error (unterminated echo).raised

/-- Exchanges one payload for another of the same size. -/
def payload (data : Bytes) : Action Bytes :=
  if data.isEmpty then pure []
  else match Frame.make data with
    | .error fault => throw fault.raised
    | .ok frame => do
      Line.send frame.octets
      Action.sleep settleTime
      let echo ← Line.receive frame.octets.length
      match ofEcho echo data.length with
      | .error raised => throw raised
      | .ok received => do
        Action.note (.transferred data.length)
        pure received

/-- Exchanges what a view shows, in place. -/
def through (view : View) : Action Unit := do
  let received ← payload ((← get).store.load view)
  modify fun world => { world with store := world.store.save view received }

end Hexwire.Exchange
