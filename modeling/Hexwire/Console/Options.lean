import Hexwire.Console.CommandLine
import Hexwire.Console.Parameter
import Hexwire.Release

/-! # The choices on a command line

Switches become choices in the order in which they first occur, each with the value of its last
occurrence; the first value that cannot be used ends the reading. Help and version are answered
before any value is looked at.
-/

namespace Hexwire.Console

/-- Why work on a command line stops: a page was asked for, the command line is at fault, or the
work failed. -/
inductive Halt where
  | shown (page : String)
  | misused (command : Option Command) (complaint : Complaint)
  | failed (raised : Raised)

namespace Options

/-- The line that tells the version. -/
def versionLine : String := programName ++ ", version " ++ Release.version

/-- The answer to the first switch that is answered before all others. -/
def answered? (command : Option Command) (line : CommandLine) : Option String :=
  (line.switches.find? Switch.isEager).map fun switch =>
    if switch = .version then versionLine else page command

/-- The halt for a value that a switch cannot use. -/
def refused (command : Option Command) (switch : Switch) (reason : String) : Halt :=
  .misused command (.badValue switch reason)

/-- A path with a single slash at its start where there are several. -/
def singleRoot : List Char → List Char
  | '/' :: '/' :: rest => '/' :: rest
  | path => path

/-- The absolute path of a configuration file, which must exist and be no directory. -/
def configurationPath (tree : FileTree) (path : String) : Except Halt String :=
  let full := String.ofList (singleRoot (tree.fullPath path))
  let refuse (reason : String) : Except Halt String :=
    .error (refused none .configuration ("File " ++ Text.quoted path ++ reason))
  match tree.locate full with
  | .error .nullCharacter => .error (.failed (PathFault.nullCharacter.failure path).raised)
  | .error _ => refuse " does not exist."
  | .ok (_, none) => refuse " does not exist."
  | .ok (_, some .directory) => refuse " is a directory."
  | .ok (_, some _) => .ok full

/-- A speed, which must be one of those supported, written as they are. -/
def speed (text : String) : Except Halt String :=
  let supported := Settings.speeds.map toString
  if supported.contains text then .ok text
  else .error (refused none .baudRate (Text.quoted text ++ " is not one of " ++
    ", ".intercalate (supported.map Text.quoted) ++ "."))

/-- A choice with what one switch of a command line chooses. -/
def choose (tree : FileTree) (line : CommandLine) (choice : Settings.Choice) (switch : Switch) :
    Except Halt Settings.Choice :=
  match switch, line.value? switch with
  | .port, some port => .ok { choice with port := some port }
  | .baudRate, some text => (speed text).map fun text => { choice with baudRate := some text }
  | .configuration, some path =>
    (configurationPath tree path).map fun full => { choice with configuration := some full }
  | .releaseOnError, _ => .ok { choice with releaseOnError := true }
  | _, _ => .ok choice

/-- What the switches of the program choose. -/
def choice (tree : FileTree) (line : CommandLine) : Except Halt Settings.Choice :=
  line.switches.foldlM (choose tree line) {}

/-- The level of a switch that chooses one. -/
def level? : Switch → Option Int
  | .verbose => some Log.info
  | .debug => some Log.debug
  | _ => none

/-- The level of the stream's log: the one chosen last, else that of warnings. -/
def level (line : CommandLine) : Int :=
  ((line.occurrences.filterMap fun found => level? found.switch).getLast?).getD Log.warning

/-- The integer that a switch of a command chooses. -/
def integer (command : Command) (line : CommandLine) (switch : Switch) (standard : Int) :
    Except Halt Int :=
  match line.value? switch with
  | none => .ok standard
  | some text => match convertInteger 0 (.text text) with
    | .ok (.int n) => .ok n
    | .ok _ => .ok standard
    | .error reason => .error (refused command switch reason)

/-- The size and the octet of a ping. -/
def ping (line : CommandLine) : Except Halt (Int × Int) :=
  line.switches.foldlM (fun (size, filler) switch => match switch with
    | .size => (integer .ping line .size size).map fun size => (size, filler)
    | .filler => (integer .ping line .filler filler).map fun filler => (size, filler)
    | _ => .ok (size, filler)) (standardSize, standardFiller)

/-- The argument of a command that takes one, which must be there and must be the only one. -/
def argument (command : Command) (placeholder : String) (line : CommandLine) :
    Except Halt String :=
  match line.operands with
  | [] => .error (.misused command (.argumentMissing placeholder))
  | [argument] => .ok argument
  | _ :: left => .error (.misused command (.argumentsLeft left))

/-- Refuses arguments of a command that takes none. -/
def noArgument (command : Command) (line : CommandLine) : Except Halt Unit :=
  if line.operands.isEmpty then .ok ()
  else .error (.misused command (.argumentsLeft line.operands))

/-- The command line of the program or of a command, unless it asks for a page. -/
def read (command : Option Command) (arguments : List String) : Except Halt CommandLine :=
  match CommandLine.read (switchesOf command) command.isSome arguments with
  | .error complaint => .error (.misused command complaint)
  | .ok line => match answered? command line with
    | some page => .error (.shown page)
    | none => .ok line

end Options

end Hexwire.Console
