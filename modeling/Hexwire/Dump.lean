import Hexwire.Frame
import Hexwire.Sequence.Chunks
import Hexwire.Text.LetterCase

/-! # Octets as people read and write them

Octets are printed as digit pairs separated by spaces, in lines of equal length, or as a dump whose
lines hold the address, sixteen octets and the same octets as characters. Octets are written by
people as digit pairs in either case, with spaces anywhere and the marker of base sixteen in front.
-/

namespace Hexwire

/-- Chunks of a size that may be negative, which gives none, or zero, which is refused. -/
def chunksSigned {α : Type} (items : List α) (size : Int) : Except Failure (List (List α)) :=
  if size = 0 then .error (.ofText .value "range() arg 3 must not be zero")
  else .ok (chunks size.toNat items)

namespace Dump

/-- Octets as digit pairs in lines of the given length: the digits are cut into lines and each line
into pairs. -/
def pairs (data : Bytes) (lineLength : Int) : Except Failure String :=
  (chunksSigned (data.flatMap Hex.lowerPair) (lineLength * 2)).map fun lines =>
    "\n".intercalate (lines.map fun line => " ".intercalate ((chunks 2 line).map String.ofList))

/-- The number of octets in a line of a dump. -/
def width : Nat := 16

/-- An octet as a character of a dump: itself if it is printable ASCII and a point otherwise. -/
def glyph (octet : UInt8) : Char :=
  if 0x20 ≤ octet && octet ≤ 0x7E then Hex.charOfOctet octet else '.'

/-- The digit pairs of a line in two groups of eight, padded so that what follows is aligned. -/
def columns (line : Bytes) : List Char :=
  let pair (octet : UInt8) : List Char := Hex.encodeUpper [octet] |>.map Hex.charOfOctet
  let group (octets : Bytes) : List Char :=
    [' '].intercalate (octets.map pair)
  let left := group (line.take 8)
  let right := group (line.drop 8)
  let shown := if line.length ≤ 8 then left else left ++ "  ".toList ++ right
  shown ++ List.replicate (2 + 3 * width - shown.length) ' '

/-- A line of a dump. -/
def line (number : Nat) (octets : Bytes) : String :=
  ((Hex.padded 8 (number * width)).map Char.toUpper) ++ ": " ++
    String.ofList (columns octets ++ octets.map glyph)

/-- Octets as a dump. -/
def table (data : Bytes) : String :=
  "\n".intercalate ((chunks width data).zipIdx.map fun (octets, number) => line number octets)

/-- Whether text starts with the marker of base sixteen, the letter of which may be a capital. -/
def isMarked (text : List Char) : Bool :=
  (text.take 2).map (fun c => Text.smallForm c.toNat) = [0x30, 0x78]

/-- Whether text is made of pairs of digits; there must be at least one pair and nothing else. -/
def isPaired : List Char → Bool
  | [high, low] => Hex.isDigit high && Hex.isDigit low
  | high :: low :: rest => Hex.isDigit high && Hex.isDigit low && isPaired rest
  | _ => false

/-- A written payload without spaces and marker. -/
def stripped (text : List Char) : List Char :=
  let compact := text.filter (· ≠ ' ')
  if isMarked compact then compact.drop 2 else compact

/-- The octets that a written payload stands for. -/
def parse (text : String) : Except Failure Bytes :=
  let digits := stripped text.toList
  if isPaired digits then
    match Hex.parse digits with
    | .ok data => .ok data
    | .error fault => .error fault.failure
  else .error (.application (some ("Incorrect hex-data: '" ++ String.ofList digits ++
      "' is not a valid hex string")) 1)

end Dump

end Hexwire
