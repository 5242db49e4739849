import Hexwire.Number.Integer
import Hexwire.Value.Printer

/-! # Parameters of the console program

An integer parameter is a literal in a chosen base. A value that is an integer already is taken as
it is, whatever the base.
-/

namespace Hexwire.Console

/-- Characters of octets for the reading of numbers, where an octet outside ASCII stands for nothing
that a number can hold. -/
def numeralChars (data : Bytes) : List Char :=
  data.map fun octet => if octet < 0x80 then Hex.charOfOctet octet else '?'

/-- The integer that a value denotes in a base, or what is wrong with it. -/
def convertInteger (base : Int) (value : Value) : Except String Value :=
  let invalid : Except String Value := .error (value.literal ++ " is not a valid integer")
  let read (text : List Char) : Except String Value :=
    match Integer.parse base.toNat text with
    | .ok n => .ok (.int n)
    | .error _ => invalid
  match value with
  | .bool b => .ok (.bool b)
  | .int n => .ok (.int n)
  | value =>
    if base ≠ 0 ∧ (base < 2 ∨ 36 < base) then invalid
    else match value with
      | .text s => read s.toList
      | .bytes data => read (numeralChars data)
      | value => .error ("expected string for int() conversion, got " ++ value.literal ++
          " of type " ++ value.typeName)

end Hexwire.Console
