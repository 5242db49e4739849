import Hexwire.Console.Ending
import Hexwire.Console.Options
import Hexwire.Dump
import Hexwire.Log.Journal
import Hexwire.Ping
import Hexwire.Session

/-! # The console program

The program reads its switches, finds its command, installs its log and puts its settings together
before it reads the switches of the command and carries the command out. Commands that talk to the
bridge open the line for that and close it afterwards. Whatever stops the program is turned into
what the user sees and an exit code.
-/

namespace Hexwire.Console

/-- What the program finds on its host: what stands at the other end of a port, the names of the
ports, the files, the debug log if one is kept, the time, and the size from which on there is no
memory for a payload. -/
structure Host where
  peer : Peer
  ports : List String := []
  tree : FileTree := .empty
  debugLog : Option String := none
  moment : String
  memory : Int := Nat.pow 2 40

/-- The ports that a host lists, which are all that it has, whatever it is asked for. -/
def Host.listed (host : Host) (_ : Line.Enquiry) : List String := host.ports

/-- A run of the program: what it printed, its journal, whose stream is the one for errors, and the
line that it opened with the world behind it. -/
structure Run where
  journal : Log.Journal
  output : String := ""
  connection : Option (Line × World) := none

namespace Run

/-- The run at its start. -/
def start (tree : FileTree) : Run := { journal := { tree := tree } }

/-- A run with a line printed. -/
def say (run : Run) (line : String) : Run :=
  { run with output := run.output ++ Text.withoutControls (line ++ "\n") }

/-- A run with a line printed for errors. -/
def complain (run : Run) (line : String) : Run :=
  let stream := run.journal.stream ++ Text.withoutControls (line ++ "\n")
  { run with journal := { run.journal with stream := stream } }

/-- A run with records noted in its journal. -/
def note (run : Run) (records : List Log.Record) : Run :=
  { run with journal := run.journal.noteAll records }

/-- A run after what an ending shows. -/
def conclude (run : Run) (debugLog : Option String) (ending : Ending) : Run :=
  let stated := match ending.statement with
    | some statement => run.complain statement
    | none => run
  let noted := stated.note ending.record.toList
  match debugLog, ending.pointer with
  | some path, some mark => noted.say (Ending.pointerLine path mark)
  | _, _ => noted

end Run

/-- Work of the program, which may halt and keeps the run it has reached. -/
abbrev Program := ExceptT Halt (StateM Run)

namespace Program

/-- Prints a line. -/
def say (line : String) : Program Unit := modify fun run => run.say line

/-- Fails with a failure that has no cause. -/
def fail {α : Type} (failure : Failure) : Program α := throw (.failed failure.raised)

/-- A result that may fail, as work. -/
def ofResult {α : Type} : Except Failure α → Program α
  | .ok value => pure value
  | .error failure => fail failure

/-- A result that may halt, as work. -/
def ofReading {α : Type} : Except Halt α → Program α
  | .ok value => pure value
  | .error halt => throw halt

/-- Keeps the world behind a line and notes its events. -/
def keep (line : Line) (world : World) : Program Unit :=
  modify fun run =>
    { run.note (world.events.map Event.record) with connection := some (line, world) }

/-- Opens the line of the settings, acts on it and closes it. -/
def overBridge {α : Type} (host : Host) (settings : Settings) (work : Action α) :
    Program α := do
  let line := Line.withSpeed settings.port settings.baudRate
  match Session.start line host.peer [] with
  | .refused raised => throw (.failed raised)
  | .connected (.error raised) world => do
    keep line world
    throw (.failed raised)
  | .connected (.ok _) world => do
    let (outcome, after) := (Line.closing work).result world
    keep line after
    match outcome with
    | .ok value => pure value
    | .error raised => throw (.failed raised)

/-- Exchanges a payload over the bridge in one transaction. -/
def exchange (host : Host) (settings : Settings) (data : Bytes) : Program Bytes :=
  overBridge host settings (Transaction.exchange settings.releaseOnError data Frame.maxPayload)

/-- Lists the ports. -/
def scan (host : Host) : Program Unit :=
  let ports := Line.scan host.listed
  if ports.isEmpty then say "No serial port found" else ports.forM say

/-- Toggles chip select. -/
def toggle (host : Host) (settings : Settings) : Program Unit := do
  overBridge host settings ChipSelect.toggle
  say "Chip select toggled"

/-- Exchanges a written payload and prints the answer, as a dump if that is chosen. -/
def transfer (host : Host) (settings : Settings) (written : String) (asDump : Bool) :
    Program Unit := do
  let data ← ofResult (Dump.parse written)
  let received ← exchange host settings data
  let text ← if asDump then pure (Dump.table received)
    else ofResult (Dump.pairs received Dump.width)
  say text

/-- Exchanges a filled payload and reports what came back. -/
def ping (host : Host) (settings : Settings) (size filler : Int) : Program Unit := do
  let data ← ofResult (Ping.payload host.memory size filler)
  let received ← exchange host settings data
  say (Ping.report data received)
  if Ping.succeeded data received then pure () else fail (.application none 1)

/-- Carries out a command with its arguments. -/
def perform (host : Host) (settings : Settings) (command : Command)
    (arguments : List String) : Program Unit := do
  if command = .transfer ∧ arguments = [] then throw (.misused command .nothingGiven)
  let line ← ofReading (Options.read command arguments)
  match command with
  | .scan => do
    ofReading (Options.noArgument command line)
    scan host
  | .toggle => do
    ofReading (Options.noArgument command line)
    toggle host settings
  | .transfer => do
    let written ← ofReading (Options.argument command "HEXDATA" line)
    transfer host settings written (line.has .hexdump)
  | .ping => do
    let (size, filler) ← ofReading (Options.ping line)
    ofReading (Options.noArgument command line)
    ping host settings size filler

/-- The switches of the program and what they choose, with the operands. -/
def readProgram (host : Host) (arguments : List String) :
    Except Halt (CommandLine × Settings.Choice) :=
  match Options.read none arguments with
  | .error halt => .error halt
  | .ok line => (Options.choice host.tree line).map fun choice => (line, choice)

/-- The command of a name. A name that starts with a dash is first read as switches, so that what is
wrong with those is told. -/
def findCommand (host : Host) (name : String) (arguments : List String) : Except Halt Command :=
  match Command.ofName? name with
  | some command => .ok command
  | none =>
    let unknown : Except Halt Command := .error (.misused none (.commandUnknown name))
    if name.toList.head? = some '-' then
      match readProgram host (name :: arguments) with
      | .error halt => .error halt
      | .ok _ => unknown
    else unknown

/-- Installs the log and puts the settings together. -/
def prepare (host : Host) (arguments : List String) (line : CommandLine)
    (choice : Settings.Choice) : Program Settings := do
  let installation : Log.Installation :=
    { level := Options.level line, debugLog := host.debugLog, moment := host.moment,
      command := programName :: arguments }
  let (refused, journal) := installation.apply (← get).journal
  modify fun run => { run with journal := journal }
  if let some failure := refused then fail failure
  let (settings, records) := Settings.ofChoice (← get).journal.tree choice
  modify fun run => run.note records
  match settings with
  | .ok settings => pure settings
  | .error raised => throw (.failed raised)

/-- Carries out a command line. -/
def main (host : Host) (arguments : List String) : Program Unit := do
  if arguments.isEmpty then throw (.misused none .nothingGiven)
  let (line, choice) ← ofReading (readProgram host arguments)
  match line.operands with
  | [] => throw (.misused none .commandMissing)
  | name :: rest => do
    let command ← ofReading (findCommand host name rest)
    let settings ← prepare host arguments line choice
    perform host settings command rest

end Program

/-- Whether a failure stops the program as the user wished: the interrupt from the keyboard or the
end of the input. -/
def isAbort (failure : Failure) : Bool :=
  failure.isHost .keyboardInterrupt || failure.isHost .endOfFile

/-- The exit code of a run that halted, and the run after what is shown about it. -/
def Run.halted (run : Run) (debugLog : Option String) : Halt → Int × Run
  | .shown page => (0, run.say page)
  | .misused command complaint => (2, (complaint.lines command).foldl Run.complain run)
  | .failed raised =>
    if isAbort raised.failure then (1, (run.complain "").complain "Aborted!")
    else
      let ending := Ending.ofFailure raised.failure
      (ending.code, run.conclude debugLog ending)

/-- Runs the program with arguments: the exit code and the run at its end. -/
def run (host : Host) (arguments : List String) : Int × Run :=
  match (Program.main host arguments).run (Run.start host.tree) with
  | (.ok _, after) => (0, after)
  | (.error halt, after) => after.halted host.debugLog halt

end Hexwire.Console
