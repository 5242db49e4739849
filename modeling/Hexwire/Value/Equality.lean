import Hexwire.Value.Basic

/-! # Equality of values

Numbers are equal when they denote the same number, whatever their kind, and a truth value counts as
zero or one. Lists and tuples are equal item by item, mappings and sets without regard to order. Two
moments with known distances from universal time are equal when they are the same instant.
-/

namespace Hexwire

/-- How two values compare as numbers, if both are numbers. -/
def Value.compareNumbers? (x y : Value) : Option Ordering :=
  match x.asInt?, y.asInt?, x, y with
  | some m, some n, _, _ => some (compare m n)
  | some m, none, _, .float b => (b.compareRatio? m 1).map Ordering.swap
  | none, some n, .float a, _ => a.compareRatio? n 1
  | none, none, .float a, .float b => a.compare? b
  | _, _, _, _ => none

/-- Whether a value is a number or counts as one. -/
def Value.isNumber : Value → Bool
  | .bool _ => true
  | .int _ => true
  | .float _ => true
  | _ => false

/-- The number of days from the start of the calendar to a day. -/
def Date.ordinal (d : Date) : Nat :=
  let before := d.year - 1
  let months := (List.range (d.month - 1)).map fun m => monthLength d.year (m + 1)
  before * 365 + before / 4 - before / 100 + before / 400 + months.foldl (· + ·) 0 + d.day

/-- Whether two moments are the same. -/
def Moment.same (m n : Moment) : Bool :=
  match m.offset, n.offset with
  | some a, some b =>
    let minutes (x : Moment) (offset : Int) : Int :=
      (x.date.ordinal * 24 + x.hour) * 60 + x.minute - offset
    minutes m a = minutes n b && m.second = n.second && m.microsecond = n.microsecond
  | none, none => m = n
  | _, _ => false

mutual

/-- Whether two values are equal. -/
def Value.equals : Value → Value → Bool
  | .null, y => match y with
    | .null => true
    | _ => false
  | .text s, y => match y with
    | .text t => s = t
    | _ => false
  | .bytes s, y => match y with
    | .bytes t => s = t
    | _ => false
  | .date d, y => match y with
    | .date e => d = e
    | _ => false
  | .moment m, y => match y with
    | .moment n => m.same n
    | _ => false
  | .list items, y => match y with
    | .list others => Value.allEqual items others
    | _ => false
  | .tuple items, y => match y with
    | .tuple others => Value.allEqual items others
    | _ => false
  | .set items, y => match y with
    | .set others => items.length = others.length && Value.allWithin items others
    | _ => false
  | .map entries, y => match y with
    | .map others => entries.length = others.length && Value.entriesWithin entries others
    | _ => false
  | .failure _, _ => false
  | .bool b, y => Value.compareNumbers? (.bool b) y = some .eq
  | .int n, y => Value.compareNumbers? (.int n) y = some .eq
  | .float x, y => Value.compareNumbers? (.float x) y = some .eq

/-- Whether values are equal one by one. -/
def Value.allEqual : List Value → List Value → Bool
  | [], others => others.isEmpty
  | x :: rest, others => match others with
    | y :: others => x.equals y && Value.allEqual rest others
    | [] => false

/-- Whether every value equals one of others. -/
def Value.allWithin : List Value → List Value → Bool
  | [], _ => true
  | x :: rest, others => others.any (fun y => x.equals y) && Value.allWithin rest others

/-- Whether every entry equals one of others. -/
def Value.entriesWithin : List (Value × Value) → List (Value × Value) → Bool
  | [], _ => true
  | (key, x) :: rest, others =>
    others.any (fun (other, y) => key.equals other && x.equals y) &&
      Value.entriesWithin rest others

end

namespace Value

/-- The entries of a mapping after a key is given a value: a key that is there keeps its place and
takes the value, another comes last. The relation tells which keys are the same. -/
def insertBy (same : Value → Value → Bool) (entries : List (Value × Value)) (key value : Value) :
    List (Value × Value) :=
  if entries.any fun (other, _) => same other key then
    entries.map fun (other, old) => if same other key then (other, value) else (other, old)
  else entries ++ [(key, value)]

/-- The entries of a mapping after a key is given a value, where equal keys are the same. -/
def insertEntry (entries : List (Value × Value)) (key value : Value) : List (Value × Value) :=
  insertBy equals entries key value

/-- The entries of a mapping given one after the other. -/
def entriesOf (given : List (Value × Value)) : List (Value × Value) :=
  given.foldl (fun entries (key, value) => insertEntry entries key value) []

/-- The items of a set given one after the other. -/
def itemsOf (given : List Value) : List Value :=
  given.foldl (fun items item => if items.any (·.equals item) then items else items ++ [item]) []

/-- The value under a text in the entries of a mapping. -/
def lookup? (entries : List (Value × Value)) (key : String) : Option Value :=
  (entries.find? fun (other, _) => other.equals (.text key)).map (·.2)

/-- Whether a value can be the key of a mapping. -/
def isKey : Value → Bool
  | list _ => false
  | map _ => false
  | set _ => false
  | _ => true

end Value

end Hexwire
