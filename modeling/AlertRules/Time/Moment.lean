import AlertRules.Value.Display

/-!
Moments: points in time as a calendar and a clock show them.

A moment is a date, a time of day to the microsecond and the offset of
its zone, if it has one. Moments that a document gives keep their zone,
so equal points in time may print differently.

Dates are counted in days from the first of January 1970 in the
proleptic Gregorian calendar, by eras of four hundred years; a year is
taken to begin in March, which puts the leap day at its end.
-/

namespace AlertRules

/-- A date and a time of day, with the offset of its zone in minutes. -/
structure Moment where
  year : Nat
  month : Nat
  day : Nat
  hour : Nat
  minute : Nat
  second : Nat
  micros : Nat
  offset : Option Int
  deriving DecidableEq, Repr

namespace Moment

def isLeap (year : Nat) : Bool :=
  year % 4 == 0 && (year % 100 != 0 || year % 400 == 0)

def monthLength (year month : Nat) : Nat :=
  if month = 2 then (if isLeap year then 29 else 28)
  else if month = 4 ∨ month = 6 ∨ month = 9 ∨ month = 11 then 30
  else 31

/-- The date of a day counted from the first of January 1970. -/
def civilOfDays (days : Int) : Int × Nat × Nat :=
  let z := days + 719468
  let era := z.fdiv 146097
  let dayOfEra := (z - era * 146097).toNat
  let yearOfEra := (dayOfEra - dayOfEra / 1460 + dayOfEra / 36524 - dayOfEra / 146096) / 365
  let dayOfYear := dayOfEra - (365 * yearOfEra + yearOfEra / 4 - yearOfEra / 100)
  let shifted := (5 * dayOfYear + 2) / 153
  let day := dayOfYear - (153 * shifted + 2) / 5 + 1
  let month := if shifted < 10 then shifted + 3 else shifted - 9
  (era * 400 + yearOfEra + (if month ≤ 2 then 1 else 0), month, day)

/-- The moment that lies a number of microseconds after the start of 1970
in universal time, if it is in a year from 0 to 9999. The calendar has no
year zero, but a number may point to it. -/
def ofMicros? (micros : Int) : Option Moment :=
  let seconds := micros.fdiv 1000000
  let (year, month, day) := civilOfDays (seconds.fdiv 86400)
  let inDay := (seconds.fmod 86400).toNat
  if 0 ≤ year ∧ year ≤ 9999 then
    some {
      year := year.toNat, month, day
      hour := inDay / 3600, minute := inDay % 3600 / 60, second := inDay % 60
      micros := (micros.fmod 1000000).toNat, offset := some 0 }
  else none

/-- A number in decimal digits, at least `width` of them. -/
def padded (width n : Nat) : String :=
  let digits := Double.digitsOf n
  String.ofList (List.replicate (width - digits.length) '0' ++ digits)

/-- The date as `YYYY-MM-DD`. -/
def dateText (m : Moment) : String :=
  padded 4 m.year ++ "-" ++ padded 2 m.month ++ "-" ++ padded 2 m.day

def offsetText (minutes : Int) : String :=
  (if minutes < 0 then "-" else "+") ++ padded 2 (minutes.natAbs / 60) ++ ":" ++
    padded 2 (minutes.natAbs % 60)

/-- A moment in the standard form: fractions of a second and the offset
only where there are any. -/
def isoText (m : Moment) : String :=
  m.dateText ++ "T" ++ padded 2 m.hour ++ ":" ++ padded 2 m.minute ++ ":" ++ padded 2 m.second ++
    (if m.micros = 0 then "" else "." ++ padded 6 m.micros) ++
    (match m.offset with
      | some minutes => offsetText minutes
      | none => "")

/-- The date and the time of day to the minute, as the moment's own zone
shows them. -/
def minuteText (m : Moment) : String :=
  padded 1 m.year ++ "-" ++ padded 2 m.month ++ "-" ++ padded 2 m.day ++ " " ++
    padded 2 m.hour ++ ":" ++ padded 2 m.minute

/-- The date and the time of day to the second, as the moment's own zone
shows them. -/
def secondText (m : Moment) : String := m.minuteText ++ ":" ++ padded 2 m.second

end Moment

end AlertRules
