import Hexwire.Console.Vocabulary
import Hexwire.Text.Fill

/-! # Help pages

A help page shows how the program or a command is called, what it does, its switches and, for the
program, its commands. Lists have two columns; a first column that is too wide pushes the second to
the next line.
-/

namespace Hexwire.Console

/-- The width of a page. -/
def pageWidth : Nat := 78

/-- The widest first column that the second column makes room for. -/
def columnLimit : Nat := 30

/-- The indentation of what stands under a heading. -/
def pageIndent : Nat := 2

/-- The space between two columns. -/
def columnGap : Nat := 2

/-- The lines of one entry of a list whose second column starts after the given width. -/
def entryLines (column : Nat) (term description : String) : List String :=
  let start := Text.indented pageIndent term
  let lines := Text.fill (pageWidth - column - columnGap) description
  let below (lines : List String) : List String :=
    lines.map (Text.indented (column + pageIndent))
  if term.length + columnGap ≤ column then
    match lines with
    | [] => [start]
    | first :: rest => (Text.padRight (column + pageIndent) start ++ first) :: below rest
  else start :: below lines

/-- The lines of a list under a heading. -/
def listLines (heading : String) (rows : List (String × String)) : List String :=
  let widest := (rows.map fun (term, _) => term.length).foldl max 0
  let column := min widest columnLimit + columnGap
  ["", heading ++ ":"] ++ rows.flatMap fun (term, description) =>
    entryLines column term description

/-- A switch as the first column of a list shows it. -/
def Switch.term (switch : Switch) : String :=
  ", ".intercalate switch.names ++ match switch.placeholder? with
    | some placeholder => " " ++ placeholder
    | none => ""

/-- How the program or a command is called, in words. -/
def callWords : Option Command → List String
  | none => [programName, "[OPTIONS]", "COMMAND", "[ARGS]..."]
  | some command => [programName, command.name, "[OPTIONS]"] ++ command.argument?.toList

/-- The line that tells how the program or a command is called. -/
def usageLine (command : Option Command) : String :=
  "Usage: " ++ " ".intercalate (callWords command)

/-- What the program does, in a sentence. -/
def programSummary : String :=
  "Utility driving an SPI peripheral through a hex-encoded serial bridge."

/-- What the program or a command does, in paragraphs. -/
def paragraphs : Option Command → List String
  | none => [programSummary]
  | some command => command.summary :: command.remark?.toList

/-- The help page of the program or of a command. -/
def page (command : Option Command) : String :=
  let switches := (switchesOf command).map fun switch => (switch.term, switch.description)
  let commands := match command with
    | none => listLines "Commands" (Command.all.map fun c => (c.name, c.summary))
    | some _ => []
  "\n".intercalate ([usageLine command] ++
    (paragraphs command).flatMap (fun text => ["", Text.indented pageIndent text]) ++
    listLines "Options" switches ++ commands)

end Hexwire.Console
