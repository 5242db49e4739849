import Hexwire.Console.Page

/-! # Complaints about a command line

A command line that cannot be carried out is answered by a complaint after the line that tells how
the program or the command is called. A switch that lacks its value, or has one it does not take, is
complained about without that line. Nothing at all where something is needed is answered by the help
page.
-/

namespace Hexwire.Console

/-- What is wrong with a command line. -/
inductive Complaint where
  | nothingGiven
  | unknownSwitch (name : String) (suggestions : List String)
  | valueMissing (name : String)
  | valueUnwanted (name : String)
  | badValue (switch : Switch) (reason : String)
  | argumentMissing (placeholder : String)
  | argumentsLeft (arguments : List String)
  | commandMissing
  | commandUnknown (name : String)
  deriving DecidableEq, Repr

namespace Complaint

/-- The suggestions behind an unknown switch. -/
def suggested : List String → String
  | [] => ""
  | [name] => " Did you mean " ++ name ++ "?"
  | names => " (Possible options: " ++ ", ".intercalate names ++ ")"

/-- What a complaint says. -/
def message : Complaint → String
  | nothingGiven => ""
  | unknownSwitch name suggestions => "No such option: " ++ name ++ suggested suggestions
  | valueMissing name => "Option " ++ Text.quoted name ++ " requires an argument."
  | valueUnwanted name => "Option " ++ Text.quoted name ++ " does not take a value."
  | badValue switch reason =>
    let names := switch.names.map fun name => "'" ++ name ++ "'"
    "Invalid value for " ++ " / ".intercalate names ++ ": " ++ reason
  | argumentMissing placeholder => "Missing argument '" ++ placeholder ++ "'."
  | argumentsLeft [argument] => "Got unexpected extra argument (" ++ argument ++ ")"
  | argumentsLeft arguments =>
    "Got unexpected extra arguments (" ++ " ".intercalate arguments ++ ")"
  | commandMissing => "Missing command."
  | commandUnknown name => "No such command " ++ Text.quoted name ++ "."

/-- Whether a complaint stands without the line that tells how the program is called. -/
def isBare : Complaint → Bool
  | valueMissing _ => true
  | valueUnwanted _ => true
  | _ => false

/-- What is shown before a complaint. -/
def preamble (command : Option Command) : List String :=
  match command with
  | none => [usageLine none, ""]
  | some c => [usageLine command,
      "Try '" ++ programName ++ " " ++ c.name ++ " --help' for help.", ""]

/-- The lines that a complaint about the program or a command shows. -/
def lines (complaint : Complaint) (command : Option Command) : List String :=
  let stated := ["Error: " ++ complaint.message]
  match complaint with
  | nothingGiven => [page command]
  | complaint => if complaint.isBare then stated else preamble command ++ stated

end Complaint

end Hexwire.Console
