import Hexwire.Bytes.Hex
import Hexwire.Bytes.Utf8
import Hexwire.Value.Arithmetic

/-! # Frames

A payload of N octets travels as 2N upper-case hexadecimal digits and a terminator of two octets.
The bridge answers with a frame of the same size, which may end in the same terminator or in a
carriage return and a line feed. A frame carries at most 2048 octets; the bound is part of the type
of a frame.

Reading takes the payload from the leading digits. Each pair of octets is judged on its own, so the
first pair that is not two hexadecimal digits determines the fault; what follows the pairs is not
looked at.
-/

namespace Hexwire

/-- The greatest payload of a frame. -/
def Frame.maxPayload : Nat := 2048

/-- A payload that fits into one frame. -/
structure Frame where
  payload : Bytes
  fits : payload.length ≤ Frame.maxPayload

namespace Frame

/-- The terminator of every frame sent. -/
def terminator : Bytes := [0x78, 0x0A]

/-- The other terminator that an echoed frame may have. -/
def lineTerminator : Bytes := [0x0D, 0x0A]

/-- The size of the frame that carries a payload of the given size. -/
def sizeFor (payloadSize : Int) : Int := 2 * payloadSize + terminator.length

/-- The size of the frame for a payload size of any kind. -/
def sizeForValue (payloadSize : Value) : Except Failure Value := do
  (← payloadSize.doubled).plusInt terminator.length

/-- The octets that carry a payload over the line. -/
def encode (payload : Bytes) : Bytes := Hex.encodeUpper payload ++ terminator

/-- The octets of a frame. -/
def octets (frame : Frame) : Bytes := encode frame.payload

/-- Whether octets end in a terminator that an echo may have. -/
def isTerminated (octets : Bytes) : Bool :=
  terminator.isSuffixOf octets || lineTerminator.isSuffixOf octets

/-- Why a payload cannot be framed or a frame cannot be read. -/
inductive Fault where
  /-- The frame holds fewer digits than the payload needs. -/
  | short (expected found : Nat)
  /-- A pair of octets is not text. -/
  | notText (fault : Utf8.Fault)
  /-- A pair of octets is text but not two hexadecimal digits. -/
  | notDigits (text : List Char)
  /-- The payload exceeds the greatest payload. -/
  | long (size : Nat)
  /-- A negative payload size was asked for. -/
  | negativeSize
  /-- The size is beyond what the host counts with. -/
  | uncountableSize

/-- Two octets as one. -/
def decodePair (high low : UInt8) : Except Fault UInt8 :=
  match Hex.ofDigits? (Hex.charOfOctet high) (Hex.charOfOctet low) with
  | some octet => .ok octet
  | none => match Utf8.decode [high, low] with
    | .error fault => .error (.notText fault)
    | .ok text => .error (.notDigits text)

/-- The payload of consecutive pairs of digits; a single octet at the end is no pair and is left. -/
def decodePairs : Bytes → Except Fault Bytes
  | high :: low :: rest =>
    match decodePair high low with
    | .error fault => .error fault
    | .ok octet => match decodePairs rest with
      | .error fault => .error fault
      | .ok data => .ok (octet :: data)
  | _ => .ok []

/-- The frame with the given payload, if it fits. -/
def make (payload : Bytes) : Except Fault Frame :=
  if fits : payload.length ≤ maxPayload then .ok ⟨payload, fits⟩ else .error (.long payload.length)

/-- The frame whose payload of the given size is written by the leading digits of octets. -/
def decode (octets : Bytes) (size : Nat) : Except Fault Frame :=
  let digits := octets.take (2 * size)
  if digits.length < 2 * size then .error (.short (2 * size) digits.length)
  else match decodePairs digits with
    | .error fault => .error fault
    | .ok payload => make payload

/-- Reading with a size that may be negative, which is refused. -/
def decodeSigned (octets : Bytes) (size : Int) : Except Fault Frame :=
  if size < -(Nat.pow 2 63 : Int) then .error .uncountableSize
  else if size < 0 then .error .negativeSize
  else decode octets size.toNat

/-- Whether a frame equals something that may be no frame: frames are equal when their payloads are,
and nothing else equals a frame. -/
def equals (frame : Frame) (other : Option Frame) : Bool :=
  other.any fun other => frame.payload == other.payload

/-- How a frame is shown. -/
def render (frame : Frame) : String :=
  "HexFrame(" ++ toString frame.payload.length ++ " bytes)"

end Frame

/-- The host failure of octets that are not text. -/
def Utf8.Fault.failure (codec : String) (fault : Utf8.Fault) : Failure :=
  let reason := match fault.reason with
    | .start => "invalid start byte"
    | .continuation => "invalid continuation byte"
    | .truncated => "unexpected end of data"
  let place :=
    if fault.stop = fault.first + 1 then
      "byte 0x" ++ Hex.padded 2 fault.octet.toNat ++ " in position " ++ toString fault.first
    else "bytes in position " ++ toString fault.first ++ "-" ++ toString (fault.stop - 1)
  .ofText .unicodeDecode ("'" ++ codec ++ "' codec can't decode " ++ place ++ ": " ++ reason)

/-- The host failure of text that is not made of digit pairs. -/
def Hex.TextFault.failure (fault : Hex.TextFault) : Failure :=
  .ofText .value ("non-hexadecimal number found in fromhex() arg at position " ++
    toString fault.position)

namespace Frame.Fault

/-- What a frame fault is raised as. -/
def raised : Frame.Fault → Raised
  | .short expected found =>
    (Failure.ofBridge .invalidResponse (some ("Frame too short: expected " ++ toString expected ++
      " hex characters, got " ++ toString found))).raised
  | .notText fault =>
    (Failure.ofBridge .nonUtf8Hex none).raisedFrom (fault.failure "utf-8")
  | .notDigits text =>
    (Failure.ofBridge .invalidHexDigit (some ("Invalid hex digit in response: " ++
      Text.quoteWith Text.isUnprintable text))).raised
  | .long size =>
    (Failure.ofBridge .dataTooLong (some ("Data too long for transport: " ++ toString size ++
      " bytes, maximum is " ++ toString Frame.maxPayload))).raised
  | .negativeSize => (Failure.ofText .value "negative count").raised
  | .uncountableSize =>
    (Failure.ofText .overflow "cannot fit 'int' into an index-sized integer").raised

end Frame.Fault

end Hexwire
