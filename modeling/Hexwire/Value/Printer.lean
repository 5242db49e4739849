import Hexwire.Number.Shortest
import Hexwire.Text.Quoted
import Hexwire.Value.Basic

/-! # Texts of values and failures

A value has two texts. Its literal shows its kind: text and octets are quoted, and the items of a
collection are literals. Its plain text is the same except that text stands for itself, a failure
for its message and a day or moment for its written form. The message of a failure is its
description under the heading of its kind.
-/

namespace Hexwire

/-- The description shown where a failure has none. -/
def unknownDescription : String := "Unknown Error"

/-- A description as a message shows it. -/
def shownDescription : Option String → String
  | some text => if text.isEmpty then unknownDescription else text
  | none => unknownDescription

/-- Items between brackets, separated by commas. -/
def bracketed (left right : String) (items : List String) : String :=
  left ++ ", ".intercalate items ++ right

/-- The literal of a tuple, where a single item is followed by a comma. -/
def tupleLiteral : List String → String
  | [item] => "(" ++ item ++ ",)"
  | items => bracketed "(" ")" items

/-- The literal of a day. -/
def Date.literal (d : Date) : String :=
  bracketed "datetime.date(" ")" [toString d.year, toString d.month, toString d.day]

/-- The literal of a distance in minutes: whole days, which may be negative, and the rest in
seconds. -/
def Moment.distanceLiteral (minutes : Int) : String :=
  let days := Int.fdiv minutes 1440
  let rest := Int.fmod minutes 1440 * 60
  let parts := (if days = 0 then [] else ["days=" ++ toString days]) ++
    (if rest = 0 then [] else ["seconds=" ++ toString rest])
  bracketed "datetime.timedelta(" ")" parts

/-- The literal of a moment: seconds and microseconds only as far as they are not zero. -/
def Moment.literal (m : Moment) : String :=
  let fraction := if m.microsecond = 0 then [] else [toString m.microsecond]
  let seconds := if m.second = 0 ∧ m.microsecond = 0 then [] else toString m.second :: fraction
  let zone := match m.offset with
    | none => []
    | some minutes =>
      if minutes = 0 then ["tzinfo=datetime.timezone.utc"]
      else ["tzinfo=datetime.timezone(" ++ Moment.distanceLiteral minutes ++ ")"]
  bracketed "datetime.datetime(" ")"
    ([toString m.date.year, toString m.date.month, toString m.date.day, toString m.hour,
      toString m.minute] ++ seconds ++ zone)

/-- The plain text of a moment: day and time of day separated by a space. -/
def Moment.plain (m : Moment) : String :=
  m.render.map fun c => if c = 'T' then ' ' else c

mutual

/-- The literal of a value. -/
def Value.literal : Value → String
  | .null => "None"
  | .bool b => if b then "True" else "False"
  | .int n => toString n
  | .float x => x.render
  | .text s => Text.quoted s
  | .bytes data => Text.quotedBytes data
  | .list items => bracketed "[" "]" (Value.literals items)
  | .tuple items => tupleLiteral (Value.literals items)
  | .set items => if items.isEmpty then "set()" else bracketed "\x7b" "\x7d" (Value.literals items)
  | .map entries => bracketed "\x7b" "\x7d" (Value.entryLiterals entries)
  | .date d => d.literal
  | .moment m => m.literal
  | .failure f => f.literal

/-- The literals of values. -/
def Value.literals : List Value → List String
  | [] => []
  | item :: rest => item.literal :: Value.literals rest

/-- The literals of the entries of a mapping. -/
def Value.entryLiterals : List (Value × Value) → List String
  | [] => []
  | (key, value) :: rest => (key.literal ++ ": " ++ value.literal) :: Value.entryLiterals rest

/-- The literal of a failure: its class and the arguments that the host keeps for it, which are none
for a failure of the package. Names of files are not kept among the arguments. -/
def Failure.literal : Failure → String
  | .host kind arguments =>
    let shown := Value.literals arguments
    let kept := if Failure.namesFile kind arguments then shown.take 2 else shown
    kind.name ++ bracketed "(" ")" kept
  | .package kind _ => kind.name ++ "()"
  | .bridge kind _ => kind.name ++ "()"
  | .device _ _ => "DeviceError()"
  | .carried _ _ => "BridgeDeviceError()"
  | .application _ _ => "HexSpiAppError()"

end

/-- A message with the literals of the files it names, the first and the third of what follows the
text; the literal of nothing names none. -/
def Failure.withFiles (numbered : String) (others : List String) : String :=
  let second := (others[2]?).getD "None"
  numbered ++ ": " ++ (others.head?).getD "None" ++
    (if second = "None" then "" else " -> " ++ second)

mutual

/-- The plain text of a value. -/
def Value.plain : Value → String
  | .text s => s
  | .date d => d.render
  | .moment m => m.plain
  | .failure f => f.message
  | value => value.literal

/-- The message of a failure. A system failure with a number shows the number, the text and the
files it names; a failed look-up shows the key as a literal; a fault of grammar shows its first
argument; any other host failure shows its argument, or the tuple of its arguments. -/
def Failure.message : Failure → String
  | .package _ description => "hexspi: " ++ shownDescription description
  | .bridge kind description => kind.heading ++ shownDescription description
  | .device kind payload => Failure.deviceMessage kind payload
  | .carried kind payload => BridgeKind.heading .general ++ Failure.deviceMessage kind payload
  | .application description _ => shownDescription description
  | .host kind arguments =>
    match arguments with
    | [] => if kind.isA .grammar then "None" else ""
    | [argument] => if kind.isA .key then argument.literal else argument.plain
    | first :: second :: rest =>
      let others := Value.literals rest
      if kind.isA .os && Failure.isNumbered arguments then
        let numbered := "[Errno " ++ first.plain ++ "] " ++ second.plain
        if Failure.namesFile kind arguments then Failure.withFiles numbered others else numbered
      else if kind.isA .grammar then first.plain
      else tupleLiteral (first.literal :: second.literal :: others)

/-- The message of a secure-element failure, which the transport shows as well where it carries the
failure. -/
def Failure.deviceMessage (kind : DeviceKind) (payload : Value) : String :=
  "Device: " ++ Failure.deviceDescription kind payload

/-- What a secure-element failure says: its kind and, if it has a payload, the payload's text. -/
def Failure.deviceDescription (kind : DeviceKind) : Value → String
  | .null => kind.text
  | payload => kind.text ++ ": " ++ payload.plain

end

namespace Value

/-- The name of a value's kind. -/
def typeName : Value → String
  | .null => "NoneType"
  | .bool _ => "bool"
  | .int _ => "int"
  | .float _ => "float"
  | .text _ => "str"
  | .bytes _ => "bytes"
  | .list _ => "list"
  | .tuple _ => "tuple"
  | .set _ => "set"
  | .map _ => "dict"
  | .date _ => "date"
  | .moment _ => "datetime"
  | .failure f => f.className

end Value

/-- The description that a failure carries, for the failures that carry one. -/
def Failure.description? : Failure → Option String
  | .host _ _ => none
  | .package _ description => description
  | .bridge _ description => description
  | .device kind payload => some (Failure.deviceDescription kind payload)
  | .carried kind payload => some (Failure.deviceMessage kind payload)
  | .application description _ => description

end Hexwire
