import Hexwire.Log.Record
import Hexwire.Log.Template
import Hexwire.Text.Escape

/-! # Log lines

An entry is what a log line is made of: level, logger, the subject with its arguments, and when and
where it was logged, all of them values of any kind. The line shows level, logger and message, and
for all levels with a name but the one for progress also the time and place. An entry of another
level shows its message alone. In a coloured line each level has its colour; in a plain line colours
are taken out of the subject, and stay out of it for whoever writes the entry next.
-/

namespace Hexwire.Log

/-- What a log line is made of. -/
structure Entry where
  level : Value := .null
  levelName : Value := .text "Level None"
  logger : Value := .null
  subject : Value := .text ""
  arguments : Template.Arguments := .inOrder []
  /-- Milliseconds since the start. -/
  elapsed : Value := .int 0
  source : Value := .text "src"
  position : Value := .int 0

/-- The entry of a record. -/
def Record.entry (record : Record) : Entry where
  level := .int record.level
  levelName := .text (levelName record.level)
  logger := .text record.logger
  subject := .text record.text

/-- How lines of a level look: what stands before and after a coloured line, and whether the line
tells time and place. -/
structure Look where
  before : String
  after : String
  isLocated : Bool

/-- The sequence that sets a colour or style. -/
def colour (code : Nat) : String := "\x1b[" ++ toString code ++ "m"

/-- How the lines of the levels that have a name look. -/
def looks : List (Int × Look) :=
  [(debug, ⟨colour 34, colour 39, true⟩),
   (info, ⟨colour 37 ++ colour 1, colour 39 ++ colour 0, false⟩),
   (warning, ⟨colour 33, colour 39, true⟩),
   (error, ⟨colour 31, colour 39, true⟩),
   (critical, ⟨colour 31 ++ colour 1, colour 39 ++ colour 0, true⟩)]

/-- How the lines of a level look, if it is one that has a name. The level has to be a value that
can be looked up. -/
def lookOf (level : Value) : Except Failure (Option Look) :=
  if level.isKey then
    .ok ((looks.find? fun (named, _) => (Value.int named).equals level).map (·.2))
  else .error level.noKey

namespace Entry

/-- A part of an entry as the line shows it. -/
def shown (part : Value) : Except Failure String :=
  (part.spelled Value.plain).map String.ofList

/-- A number of an entry as the line shows it: without its fraction. -/
def counted (part : Value) : Except Failure String :=
  (Directive.writeInteger {} 'd' part).map String.ofList

/-- The message of an entry: its subject, with the arguments put in if there are any. -/
def message (entry : Entry) : Except Failure String := do
  let subject ← shown entry.subject
  if entry.arguments.isEmpty then pure subject else Template.render subject entry.arguments

/-- The time and place of an entry. -/
def location (entry : Entry) : Except Failure String := do
  let elapsed ← counted entry.elapsed
  let source ← shown entry.source
  let position ← counted entry.position
  pure (" (" ++ elapsed ++ "ms since start, " ++ source ++ ":" ++ position ++ ")")

/-- An entry as it is before it is written: without colours in its subject unless the line is
coloured. -/
def prepared (entry : Entry) (coloured : Bool) : Entry :=
  match coloured, entry.subject with
  | false, .text subject => { entry with subject := .text (Text.withoutColours subject) }
  | _, _ => entry

/-- The line of a prepared entry. -/
def line (entry : Entry) (coloured : Bool) : Except Failure String := do
  let look? ← lookOf entry.level
  let message ← entry.message
  match look? with
  | none => pure message
  | some look =>
    let levelName ← shown entry.levelName
    let logger ← shown entry.logger
    let location ← if look.isLocated then entry.location else pure ""
    let plain := levelName ++ ":" ++ logger ++ ":" ++ message ++ location
    pure (if coloured then look.before ++ plain ++ look.after else plain)

end Entry

end Hexwire.Log
