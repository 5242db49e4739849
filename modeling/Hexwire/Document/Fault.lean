import Hexwire.Value.Basic

/-! # Faults of documents

Text that is no document of a format is malformed, and another format may be tried. A document can
also be well formed and hold something that cannot become a value, a number of too many digits or a
day that does not exist; such a failure ends the reading for good.
-/

namespace Hexwire.Document

/-- Why a document gives no value. -/
inductive Fault where
  | malformed
  | failed (failure : Failure)

/-- The failure of a number with more digits than are read. -/
def tooManyDigits (count : Nat) : Failure :=
  .ofText .value ("Exceeds the limit (4300 digits) for integer string conversion: value has " ++
    toString count ++ " digits; use sys.set_int_max_str_digits() to increase the limit")

end Hexwire.Document
