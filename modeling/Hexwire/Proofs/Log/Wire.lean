import Hexwire.Event
import Hexwire.Proofs.Dump.Printing
import Hexwire.Proofs.Device.Dialogue

/-! # What the log shows of the wire

A record of the line shows octets as pairs of digits between brackets: square ones for what is sent,
angle ones for what was received. Read back, the records of events show what was handed to the
device (`Hexwire.Event.sent?_record`) and what was heard from it (`Hexwire.Event.heard?_record`),
and no other record is taken for one of these.
-/

namespace Hexwire

/-- The octets that an event has received from the device. -/
def Event.heard? : Event → Option Bytes
  | received data => some data
  | _ => none

/-- The octets that were received so far, call by call. -/
def World.heard (world : World) : List Bytes := world.events.filterMap Event.heard?

namespace Log.Record

/-- The logger of the line. -/
def lineLogger : String := "hexspi.bridge.link"

/-- The octets that a record of the line shows between two brackets. -/
def between? (left right : Char) (record : Record) : Option Bytes :=
  match record.text.toList with
  | [] => none
  | first :: rest =>
    if record.logger = lineLogger ∧ first = left ∧ rest.getLast? = some right then
      (Hex.parse rest.dropLast).toOption
    else none

/-- The octets that a record shows as sent. -/
def sent? : Record → Option Bytes := between? '[' ']'

/-- The octets that a record shows as received. -/
def heard? : Record → Option Bytes := between? '<' '>'

variable {left right : Char} {record : Record}

/-- A record of another logger shows no octets. -/
theorem between?_of_logger (other : record.logger ≠ lineLogger) :
    record.between? left right = none := by
  unfold between?
  split
  · rfl
  · exact if_neg fun ⟨same, _⟩ => other same

/-- A record that does not start with the mark shows no octets. -/
theorem between?_of_head (other : record.text.toList.head? ≠ some left) :
    record.between? left right = none := by
  unfold between?
  split
  · rfl
  · next text => exact if_neg fun ⟨_, same, _⟩ => other (by rw [text, same, List.head?_cons])

/-- Octets shown between brackets are read as they were. -/
theorem between?_of_spaced {data : Bytes} (logger : record.logger = lineLogger)
    (text : record.text.toList = left :: ((Hex.spaced data).toList ++ [right])) :
    record.between? left right = some data := by
  have read : Hex.parse (Hex.spaced data).toList = .ok data := by
    rw [Dump.toList_spaced]
    exact Hex.parse_eq_ok_iff.mpr (Dump.spells_spacedPairs data)
  unfold between?
  rw [text]
  dsimp only
  rw [if_pos ⟨logger, rfl, List.getLast?_concat⟩, List.dropLast_concat, read]
  rfl

end Log.Record

namespace Event

open Log.Record

/-- The records of the line show what was handed to the device. -/
theorem sent?_record (event : Event) : event.record.sent? = event.handed? := by
  cases event with
  | sending data => exact between?_of_spaced rfl (by simp [record])
  | opened port baudRate => exact between?_of_head (by simp [record])
  | received data => exact between?_of_head (by simp [record])
  | _ => exact between?_of_logger (by simp [record, lineLogger])

/-- The records of the line show what was received whole. -/
theorem heard?_record (event : Event) : event.record.heard? = event.heard? := by
  cases event with
  | received data => exact between?_of_spaced rfl (by simp [record])
  | opened port baudRate => exact between?_of_head (by simp [record])
  | sending data => exact between?_of_head (by simp [record])
  | _ => exact between?_of_logger (by simp [record, lineLogger])

/-- No record is below the level for debugging. -/
theorem debug_le_level (event : Event) : Log.debug ≤ event.record.level := by
  cases event <;> simp [record, Log.debug, Log.warning]

end Event

/-- What a log of a level keeps of records. -/
def Log.kept (level : Int) (records : List Record) : List Record :=
  records.filter fun record => level ≤ record.level

namespace World

/-- The log of detail keeps the records of all events. -/
theorem kept_debug (world : World) :
    Log.kept Log.debug (world.events.map Event.record) = world.events.map Event.record := by
  refine List.filter_eq_self.mpr fun record member => ?_
  obtain ⟨event, -, rfl⟩ := List.mem_map.mp member
  exact decide_eq_true event.debug_le_level

/-- The records of sends show what was handed over. -/
theorem sent_records (world : World) :
    (world.events.map Event.record).filterMap Log.Record.sent? = world.handed := by
  rw [List.filterMap_map]
  exact List.filterMap_congr fun event _ => event.sent?_record

/-- The records of receipts show what was heard. -/
theorem heard_records (world : World) :
    (world.events.map Event.record).filterMap Log.Record.heard? = world.heard := by
  rw [List.filterMap_map]
  exact List.filterMap_congr fun event _ => event.heard?_record

end World

end Hexwire
