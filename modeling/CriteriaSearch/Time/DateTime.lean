import CriteriaSearch.Time.Calendar

/-!
# Dates with a time

A point in local time to the microsecond, with the offset of the local time from universal time
where it is known; its conversion to universal time, and its written forms.
-/

namespace CriteriaSearch

open Calendar

/-- Microseconds since the start of year 1 in local time, and the microseconds by which local time
is ahead of universal time. -/
structure DateTime where
  micros : Nat
  offset : Option Int := none
deriving DecidableEq, Repr

namespace DateTime

def microsPerSecond : Nat := 1000000

def microsPerDay : Nat := 86400 * microsPerSecond

/-- The first instant after year 9999. -/
def bound : Nat := dayCount * microsPerDay

def ofDate (d : Date) : DateTime := ⟨d.toDays * microsPerDay, none⟩

/-- A time of day in microseconds, if the fields are in range. -/
def timeOfDay? (hour minute second micro : Nat) : Option Nat :=
  if hour < 24 ∧ minute < 60 ∧ second < 60 ∧ micro < microsPerSecond then
    some (((hour * 60 + minute) * 60 + second) * microsPerSecond + micro)
  else none

/-- A time as it is in the calendar, or nothing outside the years 1 to 9999. -/
def instant? (micros : Int) : Option Nat :=
  if 0 ≤ micros ∧ micros < bound then some micros.toNat else none

/-- Universal time; a time without an offset is taken to be universal already. -/
def toUniversal? (t : DateTime) : Option DateTime :=
  (instant? (t.micros - t.offset.getD 0)).map fun n => ⟨n, some 0⟩

/-- Move a time by microseconds. -/
def add? (t : DateTime) (micros : Int) : Option DateTime :=
  (instant? (t.micros + micros)).map fun n => ⟨n, t.offset⟩

def date (t : DateTime) : Date := Date.ofDays (t.micros / microsPerDay)

def hour (t : DateTime) : Nat := t.micros % microsPerDay / (3600 * microsPerSecond)

def minute (t : DateTime) : Nat := t.micros % microsPerDay / (60 * microsPerSecond) % 60

def second (t : DateTime) : Nat := t.micros / microsPerSecond % 60

def micro (t : DateTime) : Nat := t.micros % microsPerSecond

/-- At least `width` digits. -/
def padded (width n : Nat) : String :=
  let digits := Nat.toDigits 10 n
  String.ofList (List.replicate (width - digits.length) '0' ++ digits)

def dateText (d : Date) : String :=
  padded 4 d.year ++ "-" ++ padded 2 d.month ++ "-" ++ padded 2 d.day

def clockText (t : DateTime) : String :=
  padded 2 t.hour ++ ":" ++ padded 2 t.minute ++ ":" ++ padded 2 t.second

/-- Universal time in whole milliseconds, the rest cut off. The year is not padded. -/
def stamp (t : DateTime) : String :=
  toString t.date.year ++ "-" ++ padded 2 t.date.month ++ "-" ++ padded 2 t.date.day ++ "T"
    ++ t.clockText ++ "." ++ padded 3 (t.micro / 1000) ++ "Z"

/-- Hours and minutes, and seconds and microseconds as far as they are not zero. -/
def offsetText (micros : Int) : String :=
  let n := micros.natAbs
  let seconds := n / microsPerSecond
  let fraction := n % microsPerSecond
  (if micros < 0 then "-" else "+") ++ padded 2 (seconds / 3600) ++ ":"
    ++ padded 2 (seconds / 60 % 60)
    ++ (if seconds % 60 = 0 ∧ fraction = 0 then "" else ":" ++ padded 2 (seconds % 60))
    ++ (if fraction = 0 then "" else "." ++ padded 6 fraction)

/-- Date and time with a mark between them, microseconds unless zero, and the offset. -/
def isoText (t : DateTime) (mark : String) : String :=
  dateText t.date ++ mark ++ t.clockText
    ++ (if t.micro = 0 then "" else "." ++ padded 6 t.micro)
    ++ (match t.offset with | none => "" | some o => offsetText o)

end DateTime

end CriteriaSearch
