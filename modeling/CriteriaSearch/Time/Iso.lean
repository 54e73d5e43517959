import CriteriaSearch.Text.Digit
import CriteriaSearch.Time.DateTime

/-!
# ISO 8601 texts

Reading calendar and week dates in basic and extended form, a time after any one separator, and an
offset. Digits are ASCII digits only.
-/

namespace CriteriaSearch.Iso

open Text Calendar

/-- A week and the day of the week, Monday unless given; `hyphens` in the extended form. -/
def weekDate? (hyphens withDay : Bool) (year : Nat) (cs : List Char) : Option Nat := do
  let (week, cs) ← takeDigits? 2 cs
  if !withDay then ofWeek? year week 1
  else
    let cs ← if hyphens then (match cs with | '-' :: cs => some cs | _ => none) else some cs
    let (day, _) ← takeDigits? 1 cs
    ofWeek? year week day

def calendarDate? (hyphens : Bool) (year : Nat) (cs : List Char) : Option Nat := do
  let (month, cs) ← takeDigits? 2 cs
  let cs ← if hyphens then (match cs with | '-' :: cs => some cs | _ => none) else some cs
  let (day, _) ← takeDigits? 2 cs
  let d : Date := ⟨year, month, day⟩
  if d.isValid then some d.toDays else none

/-- The day that the first `length` characters denote. -/
def date? (length : Nat) (cs : List Char) : Option Nat := do
  let (year, cs) ← takeDigits? 4 cs
  match cs with
  | '-' :: 'W' :: cs => weekDate? true (8 < length) year cs
  | 'W' :: cs => weekDate? false (7 < length) year cs
  | '-' :: cs => calendarDate? true year cs
  | cs => calendarDate? false year cs

/-- Where the date ends. After a week, a hyphen may begin the day or be the separator; it begins
the day unless two digits follow. Without hyphens the parity of the row of digits decides. -/
def dateLength (cs : List Char) : Nat :=
  match cs.drop 4 with
  | '-' :: 'W' :: rest =>
    match rest.drop 2 with
    | '-' :: _ :: c :: _ => if c.isDigit then 8 else 10
    | '-' :: _ => 10
    | _ => 8
  | '-' :: _ => 10
  | 'W' :: rest =>
    let run := ((rest.drop 2).takeWhile (·.isDigit)).length
    if run < 2 then 7 + run else if run % 2 = 1 then 7 else 8
  | _ => 8

/-- Fields of a time, and whether the reading came to the end of its text. -/
structure Clock where
  hour : Nat := 0
  minute : Nat := 0
  second : Nat := 0
  micro : Nat := 0
  atEnd : Bool := true

/-- Whether nothing, or only a terminator, is left. -/
def isEnd : List Char → Bool
  | [] => true
  | c :: _ => c == '\x00'

/-- At most six digits of a fraction, as microseconds; further digits are cut off. -/
def fraction? (clock : Clock) (cs : List Char) : Option Clock := do
  let n := min 6 cs.length
  let (value, rest) ← takeDigits? n cs
  some { clock with
    micro := value * Nat.pow 10 (6 - n)
    atEnd := isEnd (rest.dropWhile (·.isDigit)) }

/-- Put the field number `i` of a time. -/
def Clock.put (clock : Clock) : Nat → Nat → Clock
  | 0, n => { clock with hour := n }
  | 1, n => { clock with minute := n }
  | _, n => { clock with second := n }

/-- Two-digit fields from number `i` on, `left` of them at most, then a fraction. Colons stand
between all fields or between none; a single ASCII character after a field ends the reading. -/
def fields? (clock : Clock) (colons : Bool) (i : Nat) : Nat → List Char → Option Clock
  | 0, cs => fraction? clock cs
  | left + 1, cs => do
    let (n, rest) ← takeDigits? 2 cs
    let clock := clock.put i n
    match rest with
    | [] => some { clock with atEnd := true }
    | [c] => if c.toNat < 128 then some { clock with atEnd := c == '\x00' } else none
    | c :: more =>
      let colons := if i = 0 then c == ':' else colons
      if colons && c == ':' then fields? clock colons (i + 1) left more
      else if c == '.' || c == ',' then fraction? clock more
      else if !colons then fields? clock colons (i + 1) left rest
      else none

def clock? (cs : List Char) : Option Clock := fields? {} true 0 3 cs

/-- An offset of less than a day in microseconds. Fields may exceed their range; an offset without
whole seconds is zero. -/
def offset? (negative : Bool) (cs : List Char) : Option Int := do
  let clock ← clock? cs
  if !clock.atEnd then none
  let seconds := (clock.hour * 60 + clock.minute) * 60 + clock.second
  let size := seconds * DateTime.microsPerSecond + clock.micro
  if seconds = 0 then some 0
  else if size < DateTime.microsPerDay then some (if negative then -(size : Int) else size)
  else none

def timeOfClock? (clock : Clock) : Option Nat :=
  DateTime.timeOfDay? clock.hour clock.minute clock.second clock.micro

/-- A time of day with an optional offset, which begins at the first sign or `Z`. -/
def time? (cs : List Char) : Option (Nat × Option Int) := do
  let isZone := fun c : Char => c == '+' || c == '-' || c == 'Z'
  let clock ← clock? (cs.takeWhile (!isZone ·))
  match cs.dropWhile (!isZone ·) with
  | [] => if clock.atEnd then return (← timeOfClock? clock, none) else none
  | 'Z' :: rest => if isEnd rest then return (← timeOfClock? clock, some 0) else none
  | c :: rest =>
    let offset ← offset? (c == '-') rest
    return (← timeOfClock? clock, some offset)

def dateTime? (cs : List Char) : Option DateTime :=
  if cs.length < 7 then none
  else do
    let length := if cs.length = 7 then 7 else dateLength cs
    let days ← date? length cs
    match cs.drop length with
    | [] => return ⟨days * DateTime.microsPerDay, none⟩
    | _ :: rest =>
      let (time, offset) ← time? rest
      return ⟨days * DateTime.microsPerDay + time, offset⟩

end CriteriaSearch.Iso
