/-! # Log records

A record has a level, the name of the logger it was given to and a text. Levels are numbers; five of
them have names.
-/

namespace Hexwire.Log

/-- One message given to a logger. -/
structure Record where
  level : Int
  logger : String
  text : String
  deriving DecidableEq, Repr

/-- The level of messages that follow a run in detail. -/
def debug : Int := 10

/-- The level of messages that report progress. -/
def info : Int := 20

/-- The level of messages about what went wrong without ending the work. -/
def warning : Int := 30

/-- The level of messages about what ended the work. -/
def error : Int := 40

/-- The level of messages about what ends the program. -/
def critical : Int := 50

/-- The name of a level. -/
def levelName (level : Int) : String :=
  if level = debug then "DEBUG"
  else if level = info then "INFO"
  else if level = warning then "WARNING"
  else if level = error then "ERROR"
  else if level = critical then "CRITICAL"
  else if level = 0 then "NOTSET"
  else "Level " ++ toString level

/-- A record on one line: level, logger and text. -/
def Record.line (r : Record) : String := levelName r.level ++ ":" ++ r.logger ++ ":" ++ r.text

end Hexwire.Log
