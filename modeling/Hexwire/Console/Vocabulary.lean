import Hexwire.Settings.Basic

/-! # The vocabulary of the console program

The program has commands, and the program and each command have switches. A switch has one or more
names; names of one dash and one character are short, all others long. A switch either takes a
value, shown by a placeholder, or stands for itself.
-/

namespace Hexwire.Console

/-- The switches of the program and of its commands. -/
inductive Switch where
  | port
  | baudRate
  | configuration
  | releaseOnError
  | verbose
  | debug
  | version
  | help
  | hexdump
  | size
  | filler
  deriving DecidableEq, Repr

/-- The commands of the program. -/
inductive Command where
  | scan
  | toggle
  | transfer
  | ping
  deriving DecidableEq, Repr

/-- The size of a payload of a ping that is not chosen. -/
def standardSize : Int := 16

/-- The octet that fills a payload of a ping where none is chosen. -/
def standardFiller : Int := 6

namespace Switch

/-- The names of a switch. -/
def names : Switch → List String
  | port => ["-p", "--port"]
  | baudRate => ["-b", "--baudrate"]
  | configuration => ["-c", "--config"]
  | releaseOnError => ["--release-on-error"]
  | verbose => ["-v", "--verbose"]
  | debug => ["-vv", "--debug"]
  | version => ["--version"]
  | help => ["--help"]
  | hexdump => ["-x", "--hexdump"]
  | size => ["-s", "--size"]
  | filler => ["--value"]

/-- The placeholder for the value of a switch that takes one. -/
def placeholder? : Switch → Option String
  | port => some "PORT"
  | baudRate => some ("[" ++ "|".intercalate (Settings.speeds.map toString) ++ "]")
  | configuration => some "FILE"
  | size => some "INTEGER"
  | filler => some "INTEGER"
  | _ => none

/-- Whether a switch takes a value. -/
def takesValue (switch : Switch) : Bool := switch.placeholder?.isSome

/-- Whether a switch is acted on before all others. -/
def isEager : Switch → Bool
  | version => true
  | help => true
  | _ => false

/-- What a switch does. -/
def description : Switch → String
  | port => "Serial port of the bridge dongle. The default is /dev/ttyACM0."
  | baudRate => "Speed of the serial line. The default is 115200."
  | configuration => "YAML or JSON file with the bridge connection settings."
  | releaseOnError => "Toggle chip select back when a transaction fails midway."
  | verbose => "Print more detailed information"
  | debug => "Display more debugging information."
  | version => "Show the version and exit."
  | help => "Show this message and exit."
  | hexdump => "Print the response as hexdump."
  | size => "Payload size.  [default: " ++ toString standardSize ++ "]"
  | filler => "Byte to fill the payload.  [default: " ++ toString standardFiller ++ "]"

/-- Whether a name of a switch is short. -/
def isShort (name : String) : Bool := name.length = 2

end Switch

/-- The name of the program. -/
def programName : String := "hexspi"

namespace Command

/-- Every command, in the order of names. -/
def all : List Command := [toggle, ping, scan, transfer]

/-- The name of a command. -/
def name : Command → String
  | scan => "scan"
  | toggle => "cs-toggle"
  | transfer => "transfer"
  | ping => "ping"

/-- The command of a name. -/
def ofName? (name : String) : Option Command := all.find? fun command => command.name = name

/-- What a command does, in a sentence. -/
def summary : Command → String
  | scan => "List the serial ports available on this host."
  | toggle => "Toggle the chip-select line once."
  | transfer => "Send data in one transaction and print the data clocked in."
  | ping => "Send a filled payload and report how much of it came back."

/-- What else is to be known about a command. -/
def remark? : Command → Option String
  | scan => none
  | toggle => some "Useful to bring the line back to idle after a transaction was aborted."
  | transfer => some ("HEXDATA     - data to send, e.g. \"0102\" or \"01 02\"; " ++
      "longer payloads are sent in several frames")
  | ping => some "With MISO wired to MOSI the payload comes back unchanged."

/-- The placeholder of the argument of a command that needs one. -/
def argument? : Command → Option String
  | transfer => some "HEXDATA"
  | _ => none

/-- The switches of a command, in the order in which they are shown. -/
def switches : Command → List Switch
  | scan => [.help]
  | toggle => [.help]
  | transfer => [.hexdump, .help]
  | ping => [.size, .filler, .help]

end Command

/-- The switches of the program itself, in the order in which they are shown. -/
def programSwitches : List Switch :=
  [.port, .baudRate, .configuration, .releaseOnError, .verbose, .debug, .version, .help]

/-- The switches that may stand before the command or after it. -/
def switchesOf : Option Command → List Switch
  | none => programSwitches
  | some command => command.switches

end Hexwire.Console
