import Hexwire.Number.Rounded
import Hexwire.Text.Numeral
import Hexwire.Value.Spelling

/-! # Layouts

A layout says how a text or a number stands in a width: the character that fills the width, the side
at which the value stands, the sign of a number, marks of its base, separators between its digits,
its precision, and a letter for the way in which it is written. It is read for a kind of value,
which has a side and a letter of its own, and which refuses what means nothing for it.
-/

namespace Hexwire

/-- How a value stands in a width. -/
structure Layout where
  fill : Char := ' '
  side : Char
  sign : Option Char := none
  plainZero : Bool := false
  alternate : Bool := false
  width : Nat := 0
  separator : Option Char := none
  precision : Option Nat := none
  letter : Char
  deriving Repr, Inhabited

namespace Layout

/-- A failure of a layout. -/
def refused {α : Type} (text : String) : Except Failure α := .error (.ofText .value text)

/-- A character as a failure shows it. -/
def shown (c : Char) : String :=
  if ' ' < c && c.toNat < 0x80 then c.toString
  else "\\x" ++ String.ofList (Nat.toDigits 16 c.toNat)

/-! ## Reading -/

/-- Whether a character stands for a side; an equals sign puts the fill after the sign. -/
def isSide (c : Char) : Bool := c = '<' || c = '>' || c = '^' || c = '='

/-- A character at the front of a text, if it is the one, and what comes after. -/
def cutMark (mark : Char) (text : List Char) : Bool × List Char :=
  match text with
  | c :: rest => if c = mark then (true, rest) else (false, text)
  | [] => (false, text)

/-- The whole number at the front of a text, if there is one, and what comes after. -/
def cutNumber (text : List Char) : Except Failure (Option Nat × List Char) :=
  let digits := text.takeWhile fun c => (Text.decimalDigit? c).isSome
  if digits.isEmpty then .ok (none, text)
  else
    let number := (digits.filterMap Text.decimalDigit?).foldl (fun total digit =>
      10 * total + digit) 0
    if Nat.pow 2 63 ≤ number then refused "Too many decimal digits in format string"
    else .ok (some number, text.drop digits.length)

/-- The fill and the side at the front of a text. A zero without a fill of its own fills after the
sign, for kinds that stand at the right. -/
def cutSides (usual : Layout) (text : List Char) : Layout × Bool × Bool × List Char :=
  match text with
  | fill :: side :: rest =>
    if isSide side then ({ usual with fill := fill, side := side }, true, true, rest)
    else if isSide fill then ({ usual with side := fill }, false, true, side :: rest)
    else (usual, false, false, text)
  | [side] => if isSide side then ({ usual with side := side }, false, true, []) else
    (usual, false, false, text)
  | [] => (usual, false, false, text)

/-- The sign at the front of a text, if there is one, and what comes after. -/
def cutSign (text : List Char) : Option Char × List Char :=
  match text with
  | c :: rest => if c = '+' || c = '-' || c = ' ' then (some c, rest) else (none, text)
  | [] => (none, text)

/-- The separator at the front of a text, if there is one, and what comes after. -/
def cutSeparator (text : List Char) : Except Failure (Option Char × List Char) :=
  let both {α : Type} : Except Failure α := refused "Cannot specify both ',' and '_'."
  match text with
  | ',' :: '_' :: _ => both
  | '_' :: ',' :: _ => both
  | ',' :: rest => .ok (some ',', rest)
  | '_' :: rest => .ok (some '_', rest)
  | _ => .ok (none, text)

/-- The precision at the front of a text, if there is one, and what comes after. -/
def cutPrecision (text : List Char) : Except Failure (Option Nat × List Char) :=
  match text with
  | '.' :: rest => do
    match ← cutNumber rest with
    | (none, _) => refused "Format specifier missing precision"
    | found => pure found
  | _ => .ok (none, text)

/-- Whether digits of a base that is a power of two are asked for. -/
def isBinary (letter : Char) : Bool :=
  letter = 'b' || letter = 'o' || letter = 'x' || letter = 'X'

/-- Whether a separator can stand between the digits that a letter asks for. -/
def admitsSeparator (letter separator : Char) : Bool :=
  "deEfFgG%\x00".toList.contains letter || (isBinary letter && separator = '_')

/-- The layout that a text describes for a kind of value. -/
def read (kind : String) (usual : Layout) (text : List Char) : Except Failure Layout := do
  let (layout, hasFill, hasSide, rest) := cutSides usual text
  let (sign, rest) := cutSign rest
  let (plainZero, rest) := cutMark 'z' rest
  let (alternate, rest) := cutMark '#' rest
  let (zero, rest) := if hasFill then (false, rest) else cutMark '0' rest
  let (width, rest) ← cutNumber rest
  let (separator, rest) ← cutSeparator rest
  let (precision, rest) ← cutPrecision rest
  let letter ← match rest with
    | [] => pure usual.letter
    | [letter] => pure letter
    | _ => refused ("Invalid format specifier '" ++ String.ofList text ++
        "' for object of type '" ++ kind ++ "'")
  if let some mark := separator then
    if !admitsSeparator letter mark then
      refused ("Cannot specify '" ++ mark.toString ++ "' with '" ++ shown letter ++ "'.")
  pure {
    fill := if zero then '0' else layout.fill
    side := if zero && !hasSide && usual.side = '>' then '=' else layout.side
    sign, plainZero, alternate, width := width.getD 0, separator, precision, letter }

/-! ## Writing -/

/-- The width from which on the host has no memory for a text. -/
def widthLimit : Nat := Nat.pow 2 40

/-- A text after a head in the width of a layout. -/
def placed (l : Layout) (head text : List Char) : Except Failure (List Char) :=
  let missing := l.width - (head.length + text.length)
  let room (count : Nat) := List.replicate count l.fill
  if widthLimit ≤ missing then .error (.host .memory [])
  else if l.side = '<' then .ok (head ++ text ++ room missing)
  else if l.side = '^' then
    .ok (room (missing / 2) ++ head ++ text ++ room (missing - missing / 2))
  else if l.side = '=' then .ok (head ++ room missing ++ text)
  else .ok (room missing ++ head ++ text)

/-- Digits, the last one first, with a separator after each group and with zeros as far as the least
width asks for them. The first count bounds the groups. -/
def groups (size : Nat) (separator : Char) : Nat → Nat → List Char → List Char
  | 0, _, digits => digits
  | count + 1, least, digits =>
    let length := min size (max (max digits.length least) 1)
    let group := digits.take length ++ List.replicate (length - digits.length) '0'
    let others := digits.drop length
    if others.isEmpty && least ≤ length then group
    else group ++ separator :: groups size separator count (least - length - 1) others

/-- Digits with the separators of a layout and with zeros as far as the least width asks for
them. -/
def grouped (l : Layout) (least : Nat) (digits : List Char) : List Char :=
  match l.separator with
  | none => List.replicate (least - digits.length) '0' ++ digits
  | some separator =>
    let size := if isBinary l.letter then 4 else 3
    (groups size separator (digits.length + least + 1) least digits.reverse).reverse

/-- The sign that stands in front of a number. -/
def signOf (l : Layout) (negative : Bool) : List Char :=
  if negative then ['-'] else match l.sign with
    | some '+' => ['+']
    | some ' ' => [' ']
    | _ => []

/-- A number of a sign, a mark, digits and what follows them in the width of a layout. Zeros that
fill after the sign are digits as well. -/
def number (l : Layout) (negative : Bool) (mark digits rest : List Char) :
    Except Failure (List Char) :=
  let head := l.signOf negative ++ mark
  let beside := head.length + rest.length
  if widthLimit ≤ l.width then .error (.host .memory [])
  else
    let least := if l.fill = '0' && l.side = '=' then l.width - beside else 0
    l.placed head ((if digits.isEmpty then [] else l.grouped least digits) ++ rest)

/-- A text in a layout: cut to the precision and put in the width. -/
def text (l : Layout) (text : List Char) : Except Failure (List Char) :=
  let unfit (what : String) : Except Failure (List Char) :=
    refused (what ++ " not allowed in string format specifier")
  if l.sign = some ' ' then unfit "Space"
  else if l.sign.isSome then unfit "Sign"
  else if l.plainZero then unfit "Negative zero coercion (z)"
  else if l.alternate then unfit "Alternate form (#)"
  else if l.side = '=' then unfit "'=' alignment"
  else l.placed [] (match l.precision with
    | some most => text.take most
    | none => text)

/-- A character by its code in a layout. -/
def character (l : Layout) (code : Int) : Except Failure (List Char) :=
  let unfit (what : String) : Except Failure (List Char) :=
    refused (what ++ " not allowed with integer format specifier 'c'")
  if l.sign.isSome then unfit "Sign"
  else if l.alternate then unfit "Alternate form (#)"
  else if code < -(Nat.pow 2 63 : Int) || (Nat.pow 2 63 : Int) ≤ code then
    .error (.ofText .overflow "Python int too large to convert to C long")
  else if code < 0 || 0x110000 ≤ code then
    .error (.ofText .overflow "%c arg not in range(0x110000)")
  else l.number false [] [] [Char.ofNat code.toNat]

/-- The base of the digits that a letter asks for. -/
def base (letter : Char) : Nat :=
  if letter = 'b' then 2 else if letter = 'o' then 8
  else if letter = 'x' || letter = 'X' then 16 else 10

/-- An integer in a layout. -/
def integer (l : Layout) (n : Int) : Except Failure (List Char) :=
  let unfit (what : String) : Except Failure (List Char) :=
    refused (what ++ " not allowed in integer format specifier")
  if l.precision.isSome then unfit "Precision"
  else if l.plainZero then unfit "Negative zero coercion (z)"
  else if l.letter = 'c' then l.character n
  else if base l.letter = 10 && Value.isTooLong n then .error Value.tooLong
  else
    let digits := Nat.toDigits (base l.letter) n.natAbs
    let digits := if l.letter = 'X' then digits.map Char.toUpper else digits
    l.number (n < 0) (if l.alternate && isBinary l.letter then ['0', l.letter] else []) digits []

/-- The precision of a number with a point where a layout with a letter gives none. -/
def usualPrecision : Nat := 6

/-- A decimal with a point in front of its exponent. -/
def withPoint (written : List Char) : List Char :=
  let mantissa := written.takeWhile (· ≠ 'e')
  if mantissa.contains '.' then written else mantissa ++ '.' :: written.drop mantissa.length

/-- The digits of a finite number in a layout, from its exact ratio. The shortest digits that read
back are written where neither a letter nor a precision is given. -/
def finite (l : Layout) (x : Binary64) (numerator denominator : Nat) : List Char :=
  let precision := l.precision.getD usualPrecision
  match l.letter.toLower, l.precision with
  | 'f', _ | '%', _ => Binary64.positional l.alternate precision numerator denominator
  | 'e', _ => Binary64.scientific l.alternate precision numerator denominator
  | '\x00', none =>
    let written := x.render.toList.dropWhile (· = '-')
    if l.alternate then withPoint written else written
  | '\x00', some count => Binary64.generalWithDecimal l.alternate count numerator denominator
  | _, _ => Binary64.general l.alternate precision numerator denominator

/-- The greatest precision of a number with a point. -/
def precisionLimit : Nat := Nat.pow 2 31 - 1

/-- A number with a point in a layout. Under a percent sign it is shown in hundredths, and under a
capital letter with capital letters. -/
def real (l : Layout) (x : Binary64) : Except Failure (List Char) :=
  if precisionLimit < l.precision.getD 0 then refused "precision too big"
  else
    let x := if l.letter = '%' then x.mul (.ofInt 100) else x
    let written := match x.ratio? with
      | some (n, denominator) => l.finite x n.natAbs denominator
      | none => if x = .nan then "nan".toList else "inf".toList
    let isNothing := x.ratio?.isSome && (written.takeWhile (· ≠ 'e')).all fun c =>
      c = '0' || c = '.'
    let written := if l.letter.isUpper then written.map Char.toUpper else written
    let written := if l.letter = '%' then written ++ ['%'] else written
    let digits := written.takeWhile Char.isDigit
    l.number (x.isNegative && !(l.plainZero && isNothing)) [] digits (written.drop digits.length)

/-- The failure of a letter that means nothing for a kind of value. -/
def unknownLetter {α : Type} (kind : String) (letter : Char) : Except Failure α :=
  refused ("Unknown format code '" ++ shown letter ++ "' for object of type '" ++ kind ++ "'")

/-- Whether a letter asks for a number with a point. -/
def isReal (letter : Char) : Bool := "eEfFgG%".toList.contains letter

end Layout

/-- A value in the layout that a text describes. Without a text it is its plain self. -/
def Value.laidOut (value : Value) (text : List Char) : Except Failure (List Char) :=
  let kind := value.typeName
  if text.isEmpty then value.spelled Value.plain
  else match value with
    | .text s => do
      let layout ← Layout.read kind { side := '<', letter := 's' } text
      if layout.letter = 's' then layout.text s.toList
      else Layout.unknownLetter kind layout.letter
    | .float x => do
      let layout ← Layout.read kind { side := '>', letter := '\x00' } text
      if Layout.isReal layout.letter || layout.letter = 'n' || layout.letter = '\x00' then
        layout.real x
      else Layout.unknownLetter kind layout.letter
    | value => match value.asInt? with
      | some n => do
        let layout ← Layout.read kind { side := '>', letter := 'd' } text
        if Layout.isReal layout.letter then layout.real (← value.toReal)
        else if "bcdoxXn".toList.contains layout.letter then layout.integer n
        else Layout.unknownLetter kind layout.letter
      | none =>
        .error (Value.wrongKind ("unsupported format string passed to " ++ kind ++ ".__format__"))

end Hexwire
