import Hexwire.Document.Yaml.Cursor

/-! # Tags of YAML and the kinds of plain scalars

A tag says of what kind a node is. A plain scalar without a tag takes its kind from its text. The
patterns are those of version 1.1: truth values have several spellings, whole numbers may be binary,
octal, hexadecimal or of base sixty, a number with a point needs a sign in its exponent, and a day
or moment is recognised.
-/

namespace Hexwire.Document.Yaml

/-- The kind of a node. -/
inductive Tag where
  | null
  | bool
  | int
  | float
  | binary
  | timestamp
  | omap
  | pairs
  | set
  | str
  | seq
  | map
  | merge
  | value
  /-- A kind for which there are no values. -/
  | unknown
  deriving DecidableEq, Repr

/-- The stem that the standard tags share. -/
def standardStem : String := "tag:yaml.org,2002:"

/-- The kinds with the names that they have after the standard stem. -/
def Tag.names : List (String × Tag) :=
  [("null", .null), ("bool", .bool), ("int", .int), ("float", .float), ("binary", .binary),
   ("timestamp", .timestamp), ("omap", .omap), ("pairs", .pairs), ("set", .set), ("str", .str),
   ("seq", .seq), ("map", .map), ("merge", .merge), ("value", .value)]

/-- The kind that a full tag stands for. -/
def Tag.ofUri (uri : String) : Tag :=
  match names.find? fun (name, _) => standardStem ++ name = uri with
  | some (_, tag) => tag
  | none => .unknown

/-- The parts of a written day or moment. -/
structure WrittenTime where
  hour : Nat
  minute : Nat
  second : Nat
  /-- The digits of the fraction of the second. -/
  fraction : List Char
  /-- Whether a distance from universal time is written, and its sign, hours and minutes; no sign
  stands for universal time itself. -/
  zone : Option (Option Bool × Nat × Nat)

/-- A written day with the time of day, if there is one. -/
structure WrittenMoment where
  year : Nat
  month : Nat
  day : Nat
  time : Option WrittenTime

namespace Pattern

/-- The number that decimal digits denote. -/
def decimal (digits : List Char) : Nat :=
  digits.foldl (fun total c => 10 * total + (c.toNat - 48)) 0

/-- A number of at least and at most the given counts of digits, and the text after it. -/
def digits? (least most : Nat) (text : List Char) : Option (Nat × List Char) :=
  let taken := (text.take most).takeWhile Char.isDigit
  if taken.length < least then none else some (decimal taken, text.drop taken.length)

/-- The text after a character. -/
def after? (c : Char) : List Char → Option (List Char)
  | [] => none
  | first :: rest => if first = c then some rest else none

/-- Text without a sign at its start. -/
def unsigned : List Char → List Char
  | '+' :: rest => rest
  | '-' :: rest => rest
  | text => text

/-- Digits and underscores after a first digit, and the text after them. -/
def grouped? (text : List Char) : Option (List Char) :=
  match text with
  | c :: rest =>
    if c.isDigit then some (rest.dropWhile fun c => c.isDigit || c = '_') else none
  | [] => none

/-- The text after one or more parts of base sixty, each with a colon before it; the count bounds
the parts. -/
def sixties? : Nat → List Char → Option (List Char)
  | 0, _ => none
  | fuel + 1, text => do
    let rest ← after? ':' text
    let part := rest.takeWhile Char.isDigit
    let rest := rest.drop part.length
    let fits : Bool := match part with
      | [_] => true
      | [tens, _] => tens ≤ '5'
      | _ => false
    if fits then
      match rest with
      | ':' :: _ => sixties? fuel rest
      | rest => some rest
    else none

/-- Whether text is an exponent with a sign, or nothing. -/
def isExponent : List Char → Bool
  | [] => true
  | mark :: sign :: digits =>
    (mark = 'e' || mark = 'E') && (sign = '+' || sign = '-') && !digits.isEmpty &&
      digits.all Char.isDigit
  | _ => false

/-- Whether text is a number with a point. -/
def isFloat (text : List Char) : Bool :=
  let isPart (c : Char) : Bool := c.isDigit || c = '_'
  let body := unsigned text
  let pointed : Bool := match grouped? body with
    | some ('.' :: rest) => isExponent (rest.dropWhile isPart)
    | _ => false
  let bare : Bool := match text with
    | '.' :: c :: rest => c.isDigit && isExponent (rest.dropWhile isPart)
    | _ => false
  let sixty : Bool := match (grouped? body).bind (sixties? text.length) with
    | some ('.' :: rest) => rest.all isPart
    | _ => false
  let infinite := [".inf", ".Inf", ".INF"].contains (String.ofList body)
  let undefinedNumber := [".nan", ".NaN", ".NAN"].contains (String.ofList text)
  pointed || bare || sixty || infinite || undefinedNumber

/-- Whether text is a whole number. -/
def isInt (text : List Char) : Bool :=
  let body := unsigned text
  let among (digits : String) (rest : List Char) : Bool :=
    !rest.isEmpty && rest.all fun c => c = '_' || digits.toList.contains c
  match body with
  | ['0'] => true
  | '0' :: 'b' :: rest => among "01" rest
  | '0' :: 'x' :: rest => among "0123456789abcdefABCDEF" rest
  | '0' :: rest => among "01234567" rest
  | body => match grouped? body with
    | some [] => true
    | some rest => sixties? text.length rest = some []
    | none => false

/-- A written distance from universal time, with nothing after it. -/
def zone? (text : List Char) : Option (Option Bool × Nat × Nat) :=
  let signed (negative : Bool) (rest : List Char) : Option (Option Bool × Nat × Nat) := do
    let (hours, rest) ← digits? 1 2 rest
    match rest with
    | [] => some (some negative, hours, 0)
    | rest => do
      let (minutes, rest) ← digits? 2 2 (← after? ':' rest)
      if rest.isEmpty then some (some negative, hours, minutes) else none
  match text with
  | ['Z'] => some (none, 0, 0)
  | '+' :: rest => signed false rest
  | '-' :: rest => signed true rest
  | _ => none

/-- A written time of day, with nothing after it. -/
def time? (text : List Char) : Option WrittenTime := do
  let (hour, rest) ← digits? 1 2 text
  let (minute, rest) ← digits? 2 2 (← after? ':' rest)
  let (second, rest) ← digits? 2 2 (← after? ':' rest)
  let (fraction, rest) := match rest with
    | '.' :: rest => (rest.takeWhile Char.isDigit, rest.dropWhile Char.isDigit)
    | rest => ([], rest)
  match rest with
  | [] => some ⟨hour, minute, second, fraction, none⟩
  | rest => do
    let zone ← zone? (rest.dropWhile isBlank)
    some ⟨hour, minute, second, fraction, some zone⟩

/-- A written day or moment. -/
def moment? (text : List Char) : Option WrittenMoment := do
  let (year, rest) ← digits? 4 4 text
  let (month, rest) ← digits? 1 2 (← after? '-' rest)
  let (day, rest) ← digits? 1 2 (← after? '-' rest)
  match rest with
  | [] => some ⟨year, month, day, none⟩
  | c :: others =>
    if c = 'T' || c = 't' then do
      let time ← time? others
      some ⟨year, month, day, some time⟩
    else if isBlank c then do
      let time ← time? (rest.dropWhile isBlank)
      some ⟨year, month, day, some time⟩
    else none

/-- Whether text is a day in full or a moment. -/
def isTimestamp (text : List Char) : Bool :=
  match moment? text with
  | some written => written.time.isSome || text.length = 10
  | none => false

/-- The spellings of the truth values. -/
def truthValues : List String :=
  ["yes", "Yes", "YES", "no", "No", "NO", "true", "True", "TRUE", "false", "False", "FALSE", "on",
   "On", "ON", "off", "Off", "OFF"]

/-- The spellings of nothing. -/
def nothings : List String := ["~", "null", "Null", "NULL", ""]

/-- Text without a line feed at its end. -/
def unended (text : List Char) : List Char :=
  if text.getLast? = some '\n' then text.dropLast else text

end Pattern

/-- The kind of a plain scalar. A line feed at the end of its text does not count. -/
def Tag.ofPlain (text : List Char) : Tag :=
  let body := if text = ['\n'] then text else Pattern.unended text
  let word := String.ofList body
  if Pattern.truthValues.contains word then .bool
  else if Pattern.isFloat body then .float
  else if Pattern.isInt body then .int
  else if word = "<<" then .merge
  else if Pattern.nothings.contains word then .null
  else if Pattern.isTimestamp body then .timestamp
  else if word = "=" then .value
  else if ["!", "&", "*"].contains word then .unknown
  else .str

end Hexwire.Document.Yaml
