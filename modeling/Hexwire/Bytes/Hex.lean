import Hexwire.Bytes.Basic

/-! # Hexadecimal digits of octets

An octet is written as two hexadecimal digits. Frames carry upper-case digits as octets of their
own, dumps and logs carry lower-case digits as text; reading accepts either case. The main statement
is that the two digits of an octet read back to that octet (`ofDigits?_digits`).
-/

namespace Hexwire.Hex

/-- The value of a hexadecimal digit of either case. -/
def digitValue? (c : Char) : Option Nat :=
  if '0' ≤ c ∧ c ≤ '9' then some (c.toNat - 48)
  else if 'A' ≤ c ∧ c ≤ 'F' then some (c.toNat - 55)
  else if 'a' ≤ c ∧ c ≤ 'f' then some (c.toNat - 87)
  else none

/-- Whether a character is a hexadecimal digit of either case. -/
def isDigit (c : Char) : Bool := (digitValue? c).isSome

/-- The upper-case digit of a value below sixteen. -/
def upperDigit (value : Nat) : Char :=
  if value < 10 then Char.ofNat (48 + value) else Char.ofNat (55 + value)

/-- The lower-case digit of a value below sixteen. -/
def lowerDigit (value : Nat) : Char :=
  if value < 10 then Char.ofNat (48 + value) else Char.ofNat (87 + value)

/-- The two upper-case digits of an octet. -/
def upperPair (octet : UInt8) : List Char :=
  [upperDigit (octet.toNat / 16), upperDigit (octet.toNat % 16)]

/-- The two lower-case digits of an octet. -/
def lowerPair (octet : UInt8) : List Char :=
  [lowerDigit (octet.toNat / 16), lowerDigit (octet.toNat % 16)]

/-- The octet that two digits denote. -/
def ofDigits? (high low : Char) : Option UInt8 := do
  let high ← digitValue? high
  let low ← digitValue? low
  some (UInt8.ofNat (16 * high + low))

/-- The digit values of an octet's halves, in either case. -/
theorem digitValue?_digit : ∀ value : Fin 16,
    digitValue? (upperDigit value) = some value.val ∧
      digitValue? (lowerDigit value) = some value.val := by
  decide

/-- The digits of the upper half of an octet, in either case. -/
theorem digitValue?_upperHalf (octet : UInt8) :
    digitValue? (upperDigit (octet.toNat / 16)) = some (octet.toNat / 16) ∧
      digitValue? (lowerDigit (octet.toNat / 16)) = some (octet.toNat / 16) :=
  digitValue?_digit ⟨octet.toNat / 16, Nat.div_lt_of_lt_mul octet.toNat_lt⟩

/-- The digits of the lower half of an octet, in either case. -/
theorem digitValue?_lowerHalf (octet : UInt8) :
    digitValue? (upperDigit (octet.toNat % 16)) = some (octet.toNat % 16) ∧
      digitValue? (lowerDigit (octet.toNat % 16)) = some (octet.toNat % 16) :=
  digitValue?_digit ⟨octet.toNat % 16, Nat.mod_lt _ (by decide)⟩

/-- An octet is made up of its halves. -/
theorem ofNat_halves (octet : UInt8) :
    UInt8.ofNat (16 * (octet.toNat / 16) + octet.toNat % 16) = octet := by
  rw [Nat.div_add_mod, UInt8.ofNat_toNat]

/-- The two digits of an octet, of either case, read back to it. -/
theorem ofDigits?_digits (octet : UInt8) :
    ofDigits? (upperDigit (octet.toNat / 16)) (upperDigit (octet.toNat % 16)) = some octet ∧
      ofDigits? (lowerDigit (octet.toNat / 16)) (lowerDigit (octet.toNat % 16)) = some octet := by
  simp only [ofDigits?, digitValue?_upperHalf, digitValue?_lowerHalf, Option.bind_eq_bind,
    Option.bind_some, ofNat_halves, and_self]

/-- The character whose code is an octet. -/
def charOfOctet (octet : UInt8) : Char := Char.ofNat octet.toNat

/-- The octets of characters whose codes are below 256. -/
def octetOfChar (c : Char) : UInt8 := UInt8.ofNat c.toNat

/-- Octets as upper-case digits, each digit an octet of its own. -/
def encodeUpper (data : Bytes) : Bytes :=
  data.flatMap fun octet => (upperPair octet).map octetOfChar

/-- Octets as lower-case text without separators. -/
def text (data : Bytes) : String := String.ofList (data.flatMap lowerPair)

/-- Octets as lower-case digit pairs separated by single spaces. -/
def spaced (data : Bytes) : String :=
  " ".intercalate (data.map fun octet => String.ofList (lowerPair octet))

/-- A number in lower-case digits, filled with zeros to at least the given width. -/
def padded (width value : Nat) : String :=
  let shown := Nat.toDigits 16 value
  String.ofList (List.replicate (width - shown.length) '0' ++ shown)

/-- A whole number as a signed literal with the prefix `0x`. -/
def literal (value : Int) : String :=
  (if value < 0 then "-0x" else "0x") ++ padded 1 value.natAbs

/-- Why text is not a sequence of octets: it stops being digit pairs at a position. -/
structure TextFault where
  position : Nat

/-- White space that may stand between digit pairs. -/
def isBlank (c : Char) : Bool := c = ' ' || ('\t' ≤ c && c ≤ '\r')

/-- Octets of text made of digit pairs with blanks between them, counting characters from
`position`. A pair may not be broken by a blank; the fault is the first character that cannot stand
where it does, which is the end of the text when the last pair is incomplete. -/
def parseFrom (position : Nat) : List Char → Except TextFault Bytes
  | [] => .ok []
  | high :: rest =>
    if isBlank high then parseFrom (position + 1) rest
    else match digitValue? high, rest with
      | none, _ => .error ⟨position⟩
      | some _, [] => .error ⟨position + 1⟩
      | some h, low :: rest =>
        match digitValue? low with
        | none => .error ⟨position + 1⟩
        | some l =>
          match parseFrom (position + 2) rest with
          | .ok data => .ok (UInt8.ofNat (16 * h + l) :: data)
          | .error fault => .error fault

/-- Octets of text made of digit pairs with blanks between them. -/
def parse (text : List Char) : Except TextFault Bytes := parseFrom 0 text

end Hexwire.Hex
