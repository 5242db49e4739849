import Hexwire.Bytes.Basic

/-! # Octets in groups of six bits

Three octets are written as four characters of an alphabet of sixty-four. Characters outside the
alphabet are passed over, and an equals sign pads the last group, behind which nothing is read.
Every group must be complete or padded.
-/

namespace Hexwire.SixBits

/-- The six bits that a character stands for. -/
def bits? (c : Char) : Option Nat :=
  if 'A' ≤ c ∧ c ≤ 'Z' then some (c.toNat - 65)
  else if 'a' ≤ c ∧ c ≤ 'z' then some (c.toNat - 71)
  else if '0' ≤ c ∧ c ≤ '9' then some (c.toNat + 4)
  else if c = '+' then some 62
  else if c = '/' then some 63
  else none

/-- The octet that two groups of bits share, the first of which stands at a position of its four. -/
def octet (position left right : Nat) : UInt8 :=
  let shift := 2 * position
  UInt8.ofNat (left * Nat.pow 2 shift + right / Nat.pow 2 (6 - shift))

/-- The octets of characters. The position in the group of four, the count of signs that pad it and
the last six bits come from the characters before. -/
def decodeFrom : Nat → Nat → Nat → List Char → Option Bytes
  | position, _, _, [] => if position = 0 then some [] else none
  | position, pads, left, c :: rest =>
    if c = '=' then
      if 2 ≤ position then
        if 4 ≤ position + pads + 1 then some [] else decodeFrom position (pads + 1) left rest
      else decodeFrom position pads left rest
    else match bits? c with
      | none => decodeFrom position pads left rest
      | some right =>
        let next := if position = 3 then 0 else position + 1
        if position = 0 then decodeFrom next 0 right rest
        else (decodeFrom next 0 right rest).map (octet position left right :: ·)

/-- The octets that a text of ASCII characters stands for. -/
def decode? (text : String) : Option Bytes :=
  if text.toList.all fun c => c.toNat < 128 then decodeFrom 0 0 0 text.toList else none

end Hexwire.SixBits
