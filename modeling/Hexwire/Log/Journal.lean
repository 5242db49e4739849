import Hexwire.Files.Tree
import Hexwire.Log.Entry
import Hexwire.Release
import Hexwire.Text.Fill

/-! # The journal

The journal hands every record to its handlers in order. A handler writes the records from its level
on to the stream of the program or to a file, as coloured or plain lines. Installing adds a handler
for the stream, and one handler for the debug log if there is a debug log and none writes to it yet;
a debug log that cannot be opened is reported and left out. A debug log starts with a banner that
tells the release and the command.
-/

namespace Hexwire.Log

/-- Where a handler writes. -/
inductive Outlet where
  | stream
  | file (path : String) (place : List String)
  deriving DecidableEq, Repr

/-- A handler of log records. -/
structure Handler where
  outlet : Outlet
  level : Int
  coloured : Bool
  deriving DecidableEq, Repr

/-- The handlers, what the stream has shown so far and the files. -/
structure Journal where
  handlers : List Handler := []
  stream : String := ""
  tree : FileTree := .empty

namespace Journal

/-- The journal after a line was written to an outlet. -/
def write (journal : Journal) (outlet : Outlet) (line : String) : Journal :=
  let text := line ++ "\n"
  match outlet with
  | .stream => { journal with stream := journal.stream ++ text }
  | .file _ place => { journal with tree := journal.tree.appendAt place (Utf8.encode text) }

/-- The journal after an entry of a level went through handlers. A plain line takes the colours out
of the entry for the handlers that follow. -/
def pass (level : Int) (journal : Journal) (entry : Entry) : List Handler → Journal
  | [] => journal
  | handler :: rest =>
    if handler.level ≤ level then
      let prepared := entry.prepared handler.coloured
      match prepared.line handler.coloured with
      | .ok line => pass level (journal.write handler.outlet line) prepared rest
      | .error _ => pass level journal prepared rest
    else pass level journal entry rest

/-- The journal after a record; records below the level for following a run are dropped. -/
def note (journal : Journal) (record : Record) : Journal :=
  if record.level < debug then journal
  else journal.pass record.level record.entry journal.handlers

/-- The journal after records in order. -/
def noteAll (journal : Journal) (records : List Record) : Journal := records.foldl note journal

end Journal

/-- What is to be installed. -/
structure Installation where
  /-- The level of the stream's handler; zero stands for the level of warnings. -/
  level : Int := 0
  /-- Whether lines are coloured, where it is said. -/
  coloured : Option Bool := none
  /-- Whether the stream is a terminal. -/
  isTerminal : Bool := false
  /-- Whether the user refuses colours in general. -/
  refusesColour : Bool := false
  /-- The path of the debug log, if one is kept. -/
  debugLog : Option String := none
  logger : String := "hexspi"
  /-- The words of the command that is run. -/
  command : List String := ["hexspi"]
  /-- The time of the installation. -/
  moment : String

namespace Installation

/-- Whether lines on the stream are coloured: as it is said, else if the stream is a terminal and
the user does not refuse colours. -/
def isColoured (installation : Installation) : Bool :=
  installation.coloured.getD (installation.isTerminal && !installation.refusesColour)

/-- The handler for the stream. -/
def streamHandler (installation : Installation) : Handler where
  outlet := .stream
  level := if installation.level = 0 then warning else installation.level
  coloured := installation.isColoured

/-- A line of a banner of the given width. -/
def bannerLine (width : Nat) (text : String) : String := Text.padRight (width - 2) text ++ " *"

/-- The heading of a banner, which the time follows. -/
def heading : String := "* HEXSPI DEBUG LOGGING STARTED "

/-- The count of characters of a time as year, month, day, hour, minute and second. -/
def momentWidth : Nat := 19

/-- The lines with which a debug log starts. -/
def banner (installation : Installation) : List String :=
  let width := heading.length + momentWidth + 2
  let rule := String.ofList (List.replicate width '*')
  let command := (Value.list (installation.command.map Value.text)).literal
  [rule, heading ++ installation.moment ++ " *",
   bannerLine width ("* hexspi version: " ++ Release.version),
   bannerLine width ("* Last command: " ++ command), rule]

/-- A record of the logger that is installed. -/
def record (installation : Installation) (level : Int) (text : String) : Record :=
  ⟨level, installation.logger, text⟩

/-- The file of a debug log, opened at its end; the directories that it lies in are made. -/
def openLog (tree : FileTree) (path : String) :
    Except Failure Outlet × FileTree :=
  match tree.ensureDirectory (String.ofList (Path.directory path.toList)) with
  | (some (stopped, fault), tree) => (.error (fault.failure stopped), tree)
  | (none, tree) =>
    let full := String.ofList (tree.fullPath path)
    match tree.openToAppend full with
    | .error fault => (.error (fault.failure full), tree)
    | .ok (place, tree) => (.ok (.file full place), tree)

/-- Whether a handler writes to the file with an absolute path. -/
def writesTo (full : String) (handler : Handler) : Bool :=
  match handler.outlet with
  | .stream => false
  | .file path _ => path = full

/-- The journal with the handler for the debug log, and the failure that the installation ends with.
What the host refuses is noted; a path that no call accepts is a failure. -/
def addLog (installation : Installation) (journal : Journal) (path : String) :
    Option Failure × Journal :=
  match openLog journal.tree path with
  | (.error failure, tree) =>
    let journal := { journal with tree := tree }
    if failure.isHost .os then
      (none, journal.note (installation.record warning
        ("Failed to initialize debug logging: " ++ failure.message)))
    else (some failure, journal)
  | (.ok outlet, tree) =>
    let handlers := journal.handlers ++ [⟨outlet, debug, false⟩]
    (none, { journal with tree := tree, handlers := handlers }.noteAll
      (installation.banner.map (installation.record debug)))

/-- The journal with what is to be installed, and the failure that the installation ends with. -/
def apply (installation : Installation) (journal : Journal) : Option Failure × Journal :=
  let journal := { journal with handlers := journal.handlers ++ [installation.streamHandler] }
  match installation.debugLog with
  | none => (none, journal)
  | some path =>
    if journal.handlers.any (writesTo (String.ofList (journal.tree.fullPath path))) then
      (none, journal)
    else installation.addLog journal path

/-- The journal after a number of installations, which a failure ends. -/
def applyTimes (installation : Installation) (journal : Journal) : Nat → Except Failure Journal
  | 0 => .ok journal
  | times + 1 => match installation.apply journal with
    | (some failure, _) => .error failure
    | (none, journal) => installation.applyTimes journal times

end Installation

end Hexwire.Log
