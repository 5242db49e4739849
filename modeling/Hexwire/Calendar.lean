/-! # Dates and moments

Days of the proleptic Gregorian calendar from year 1 to year 9999, and moments with a time of day
and an optional distance from universal time. A part out of its range is reported by name, the
largest parts first.
-/

namespace Hexwire

/-- A day of the calendar. -/
structure Date where
  year : Nat
  month : Nat
  day : Nat
  deriving DecidableEq, Repr

/-- A day with a time of day and, if given, the minutes by which its clock is ahead of universal
time. -/
structure Moment where
  date : Date
  hour : Nat
  minute : Nat
  second : Nat
  microsecond : Nat
  offset : Option Int
  deriving DecidableEq, Repr

namespace Date

/-- Whether a year has a leap day. -/
def isLeap (year : Nat) : Bool := year % 4 = 0 && (year % 100 ≠ 0 || year % 400 = 0)

/-- The number of days of a month. -/
def monthLength (year month : Nat) : Nat :=
  if month = 2 then (if isLeap year then 29 else 28)
  else if month = 4 || month = 6 || month = 9 || month = 11 then 30 else 31

/-- The day with the given parts, or why there is none. -/
def make (year month day : Nat) : Except String Date :=
  if year < 1 || 9999 < year then
    .error ("year " ++ toString year ++ " is out of range")
  else if month < 1 || 12 < month then .error "month must be in 1..12"
  else if day < 1 || monthLength year month < day then .error "day is out of range for month"
  else .ok ⟨year, month, day⟩

/-- A number in decimal digits, filled with zeros to a width. -/
def padded (width value : Nat) : String :=
  let digits := Nat.toDigits 10 value
  String.ofList (List.replicate (width - digits.length) '0' ++ digits)

/-- Year, month and day separated by hyphens. -/
def render (d : Date) : String :=
  padded 4 d.year ++ "-" ++ padded 2 d.month ++ "-" ++ padded 2 d.day

end Date

namespace Moment

/-- The moment with the given parts, or why there is none. -/
def make (year month day hour minute second microsecond : Nat) (offset : Option Int) :
    Except String Moment :=
  match Date.make year month day with
  | .error reason => .error reason
  | .ok date =>
    if 23 < hour then .error "hour must be in 0..23"
    else if 59 < minute then .error "minute must be in 0..59"
    else if 59 < second then .error "second must be in 0..59"
    else .ok ⟨date, hour, minute, second, microsecond, offset⟩

/-- The distance from universal time as signed hours and minutes. -/
def renderOffset : Option Int → String
  | none => ""
  | some minutes =>
    (if minutes < 0 then "-" else "+") ++ Date.padded 2 (minutes.natAbs / 60) ++ ":" ++
      Date.padded 2 (minutes.natAbs % 60)

/-- Day and time of day joined by a T, with microseconds only where there are some. -/
def render (m : Moment) : String :=
  m.date.render ++ "T" ++ Date.padded 2 m.hour ++ ":" ++ Date.padded 2 m.minute ++ ":" ++
    Date.padded 2 m.second ++
    (if m.microsecond = 0 then "" else "." ++ Date.padded 6 m.microsecond) ++
    renderOffset m.offset

end Moment

end Hexwire
