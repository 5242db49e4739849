import Hexwire.Bytes.Hex
import Hexwire.Value.Basic

/-! # Pings

A ping sends a payload that holds one octet over and over, and counts at how many positions the same
octet came back. It succeeds when that is so at all of them.
-/

namespace Hexwire.Ping

/-- The size from which on a payload cannot be counted by the host. -/
def countLimit : Int := Nat.pow 2 63

/-- The payload of a ping, on a host that has no memory for payloads from a size on. -/
def payload (memory size filler : Int) : Except Failure Bytes :=
  if size ≤ 0 then
    .error (.application (some ("Size must be positive, got " ++ toString size)) 1)
  else if filler < 0 ∨ 0xFF < filler then
    .error (.application (some ("Value must fit into one byte, got " ++ Hex.literal filler)) 1)
  else if countLimit ≤ size then
    .error (.ofText .overflow "cannot fit 'int' into an index-sized integer")
  else if memory ≤ size then .error (.host .memory [])
  else .ok (List.replicate size.toNat (UInt8.ofNat filler.toNat))

/-- The count of positions at which the same octet was sent and received. -/
def unchanged (sent received : Bytes) : Nat :=
  (sent.zip received).countP fun (out, back) => out = back

/-- What is reported about a ping. -/
def report (sent received : Bytes) : String :=
  "Sent " ++ toString sent.length ++ " bytes, " ++ toString (unchanged sent received) ++
    " bytes echoed back unchanged"

/-- Whether a ping succeeded. -/
def succeeded (sent received : Bytes) : Bool := unchanged sent received = sent.length

end Hexwire.Ping
