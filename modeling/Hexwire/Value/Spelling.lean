import Hexwire.Value.Access

/-! # Spelling values

An integer is spelled in at most 4300 decimal digits, and a value with a longer one inside cannot be
spelled at all. A spelling can be kept within ASCII. A number of any kind can be taken for one with
a point.
-/

namespace Hexwire.Value

/-- The failure of an integer too long to be spelled in decimal digits. -/
def tooLong : Failure :=
  .ofText .value ("Exceeds the limit (4300 digits) for integer string conversion; " ++
    "use sys.set_int_max_str_digits() to increase the limit")

/-- Whether an integer has more decimal digits than are spelled. -/
def isTooLong (n : Int) : Bool := Nat.pow 10 4300 ≤ n.natAbs

mutual

/-- Whether a value has a part that is an integer too long to be spelled. -/
def hasTooLong : Value → Bool
  | .int n => isTooLong n
  | .list items => anyTooLong items
  | .tuple items => anyTooLong items
  | .set items => anyTooLong items
  | .map entries => anyEntryTooLong entries
  | .failure (.host _ arguments) => anyTooLong arguments
  | _ => false

/-- Whether one of several values has a part too long to be spelled. -/
def anyTooLong : List Value → Bool
  | [] => false
  | item :: rest => hasTooLong item || anyTooLong rest

/-- Whether a key or value of entries has a part too long to be spelled. -/
def anyEntryTooLong : List (Value × Value) → Bool
  | [] => false
  | (key, value) :: rest => hasTooLong key || hasTooLong value || anyEntryTooLong rest

end

/-- The text that a function gives for a value that can be spelled. -/
def spelled (value : Value) (write : Value → String) : Except Failure (List Char) :=
  if hasTooLong value then .error tooLong else .ok (write value).toList

/-- A literal with every character outside ASCII written by its code. -/
def asciiLiteral (value : Value) : String :=
  String.ofList (value.literal.toList.flatMap fun c =>
    if c.toNat < 0x80 then [c] else Text.codeEscape c)

/-- The number with a point that a value is rounded to. -/
def toReal : Value → Except Failure Binary64
  | .float x => .ok x
  | value => match value.asInt? with
    | none => .error (wrongKind ("must be real number, not " ++ value.typeName))
    | some n => match Binary64.ofInt n with
      | .infinite _ => .error (.ofText .overflow "int too large to convert to float")
      | x => .ok x

end Hexwire.Value
