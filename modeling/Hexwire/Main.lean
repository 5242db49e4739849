import Hexwire.Console.Program

/-! # The executable

The executable runs the console program against an emulated bridge whose peripheral returns what it
is sent. Files named by the arguments are laid into the working directory under the names given.
-/

namespace Hexwire.Console

/-- The file tree that holds the files named by arguments, as far as they can be read. -/
def treeOfArguments (arguments : List String) : IO FileTree :=
  arguments.foldlM (fun tree (name : String) => do
    try
      let contents ← IO.FS.readBinFile name
      pure (tree.plant name (.file contents.toList))
    catch _ => pure tree) .empty

end Hexwire.Console

/-- Runs the console program and shows what it printed. -/
def main (arguments : List String) : IO UInt32 := do
  let host : Hexwire.Console.Host :=
    { peer := .emulated {}, tree := ← Hexwire.Console.treeOfArguments arguments, moment := "" }
  let (code, run) := Hexwire.Console.run host arguments
  (← IO.getStdout).putStr run.output
  (← IO.getStderr).putStr run.journal.stream
  pure (UInt32.ofNat code.toNat)
