import Hexwire.Log.Record
import Hexwire.Value.Printer

/-! # How a run of the program ends

A failure that ends the program becomes an exit code, a statement for the user, a record for the
journal and perhaps a pointer to the debug log. Failures that the program raises on purpose bring
their own code; failures of the package and of assertions give the code two; any other gives three
and is called general.
-/

namespace Hexwire.Console

/-- How a run ends. -/
structure Ending where
  code : Int
  statement : Option String := none
  record : Option Log.Record := none
  /-- What follows the pointer to the debug log, for endings that have one. -/
  pointer : Option String := none

namespace Ending

/-- The record of a failure that ends a run. -/
def recordOf (failure : Failure) : Log.Record :=
  ⟨Log.debug, "hexspi.apps.utils.utils", failure.message⟩

/-- The exit code that a code chosen by the program stands for. -/
def exitCode (code : Int) : Int := if 0 < code ∧ code < 256 then code else 1

/-- The name and the message of a failure. -/
def named (failure : Failure) : String := failure.className ++ ": " ++ failure.message

/-- How a run ends that ends with a failure. -/
def ofFailure (failure : Failure) : Ending :=
  match failure with
  | .application description code =>
    let statement := if (description.getD "").isEmpty then none else some (named failure)
    ⟨exitCode code, statement, none, none⟩
  | failure =>
    if failure.isPackage || failure.isHost .assertion then
      ⟨2, some (named failure), some (recordOf failure), some ""⟩
    else
      ⟨3, some ("GENERAL ERROR: " ++ named failure), some (recordOf failure), some "."⟩

/-- The pointer to a debug log. -/
def pointerLine (path mark : String) : String :=
  "See debug log file: " ++ path ++ " for more info" ++ mark

end Ending

end Hexwire.Console
