import Hexwire.Value.Access

/-! # Faults of definitions and of values

A definition that makes no sense is invalid, and so is one of whose values a kind is asked that it
does not have. Whatever else goes wrong while a definition is read is a failure of its own. The
check of a value ends early with what is said of the value, or with a failure of its own as well.
-/

namespace Hexwire.Schema

/-- Why a definition gives no plan. -/
inductive Fault where
  /-- The definition makes no sense, as the text says. -/
  | invalid (text : String)
  /-- Reading the definition failed in another way. -/
  | failed (failure : Failure)

namespace Fault

/-- The fault behind a failure. -/
def ofFailure (failure : Failure) : Fault :=
  if failure.isHost .type then .invalid failure.message else .failed failure

/-- A result whose failure is a fault of a definition. -/
def lift {α : Type} : Except Failure α → Except Fault α
  | .ok value => .ok value
  | .error failure => .error (ofFailure failure)

end Fault

/-- What ends the check of a value early. -/
inductive Stop where
  /-- What is said of the value. -/
  | complaint (text : String)
  | failure (failure : Failure)

/-- Whether an attempt that handles every end handles this one; others handle complaints. -/
def Stop.isHandled (every : Bool) : Stop → Bool
  | complaint _ => true
  | failure fault => every && fault.isOrdinary

/-- A definition that makes no sense. -/
def invalid {α : Type} (text : String) : Except Fault α := .error (.invalid text)

end Hexwire.Schema
