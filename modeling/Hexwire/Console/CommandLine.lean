import Hexwire.Console.Complaint
import Hexwire.Text.Likeness

/-! # Reading a command line

The arguments of the program or of a command are read from the left. An argument that starts with a
dash, and is not a dash alone, holds switches: a long name with its value behind an equals sign, or
short names in a row, of which one that takes a value takes what is left of the argument. A value
that is not in the argument is the next argument, whatever it is. Two dashes end the switches. The
program itself takes all arguments from the first operand on as they are; a command takes switches
after operands too.
-/

namespace Hexwire.Console

/-- A switch found in an argument, with its value if it takes one. -/
structure Occurrence where
  switch : Switch
  value : Option String
  deriving DecidableEq, Repr

/-- What a command line holds: switches in order and operands in order. -/
structure CommandLine where
  occurrences : List Occurrence := []
  operands : List String := []
  deriving DecidableEq, Repr

namespace CommandLine

/-- What an argument holds: switches, and perhaps a switch whose value is the next argument. -/
structure Cluster where
  occurrences : List Occurrence
  pending : Option (String × Switch) := none

/-- A command line with switches and operands in front. -/
def after (line : CommandLine) (occurrences : List Occurrence) (operands : List String) :
    CommandLine :=
  ⟨occurrences ++ line.occurrences, operands ++ line.operands⟩

/-- The switch of a name, if it is among the given ones. -/
def named? (switches : List Switch) (name : String) : Option Switch :=
  switches.find? fun switch => switch.names.contains name

/-- The long names of switches. -/
def longNames (switches : List Switch) : List String :=
  (switches.flatMap Switch.names).filter fun name => !Switch.isShort name

/-- The switches of short names in a row. -/
def readShort (switches : List Switch) : List Char → Except Complaint Cluster
  | [] => .ok ⟨[], none⟩
  | c :: rest =>
    let name := String.ofList ['-', c]
    match named? switches name with
    | none => .error (.unknownSwitch name [])
    | some switch =>
      if switch.takesValue then
        if rest.isEmpty then .ok ⟨[], some (name, switch)⟩
        else .ok ⟨[⟨switch, some (String.ofList rest)⟩], none⟩
      else (readShort switches rest).map fun cluster =>
        { cluster with occurrences := ⟨switch, none⟩ :: cluster.occurrences }

/-- The long name in an argument, and the value behind an equals sign. -/
def splitValue (argument : List Char) : List Char × Option (List Char) :=
  match argument.dropWhile (· ≠ '=') with
  | [] => (argument, none)
  | _ :: value => (argument.takeWhile (· ≠ '='), some value)

/-- The switches of an argument that starts with a dash. -/
def readSwitches (switches : List Switch) (argument : String) : Except Complaint Cluster :=
  let (characters, value) := splitValue argument.toList
  let name := String.ofList characters
  match (named? switches name).filter fun _ => !Switch.isShort name with
  | some switch =>
    match switch.takesValue, value with
    | true, some value => .ok ⟨[⟨switch, some (String.ofList value)⟩], none⟩
    | true, none => .ok ⟨[], some (name, switch)⟩
    | false, some _ => .error (.valueUnwanted name)
    | false, none => .ok ⟨[⟨switch, none⟩], none⟩
  | none =>
    match argument.toList with
    | '-' :: '-' :: _ =>
      .error (.unknownSwitch name (Text.suggestions name (longNames switches)))
    | characters => readShort switches (characters.drop 1)

/-- Whether an argument holds switches. -/
def holdsSwitches (argument : String) : Bool :=
  argument.toList.head? = some '-' && 1 < argument.length

/-- What arguments hold, where switches may or may not stand after operands. -/
def read (switches : List Switch) (mixed : Bool) : List String → Except Complaint CommandLine
  | [] => .ok {}
  | argument :: rest =>
    if argument = "--" then .ok ⟨[], rest⟩
    else if holdsSwitches argument then
      match readSwitches switches argument with
      | .error complaint => .error complaint
      | .ok ⟨occurrences, none⟩ =>
        (read switches mixed rest).map fun line => line.after occurrences []
      | .ok ⟨occurrences, some (name, switch)⟩ =>
        match rest with
        | [] => .error (.valueMissing name)
        | value :: rest =>
          (read switches mixed rest).map fun line =>
            line.after (occurrences ++ [⟨switch, some value⟩]) []
    else if mixed then (read switches mixed rest).map fun line => line.after [] [argument]
    else .ok ⟨[], argument :: rest⟩

/-- The switches of a command line, each once, in the order in which they first occur. -/
def switches (line : CommandLine) : List Switch :=
  (line.occurrences.map Occurrence.switch).eraseDups

/-- The value with which a switch occurs last. -/
def value? (line : CommandLine) (switch : Switch) : Option String :=
  (line.occurrences.reverse.find? fun found => found.switch = switch).bind Occurrence.value

/-- Whether a switch occurs. -/
def has (line : CommandLine) (switch : Switch) : Bool :=
  line.occurrences.any fun found => found.switch = switch

end CommandLine

end Hexwire.Console
