import CriteriaSearch.Text.Blank
import CriteriaSearch.Time.Iso
import CriteriaSearch.Time.MonthName
import CriteriaSearch.Value

/-!
# Values as instants

Which values denote an instant of universal time.
-/

namespace CriteriaSearch

/-- A conversion or a shift leaves the years 1 to 9999. -/
inductive CalendarError where
  | outOfRange
deriving DecidableEq, Repr

namespace DateTime

/-- Zulu time at the end of a text is written as an offset. -/
def withoutZulu (cs : List Char) : List Char :=
  match cs.reverse with
  | 'Z' :: rest => rest.reverse ++ "+00:00".toList
  | _ => cs

/-- An ISO 8601 text, or else one with the name of the month. -/
def ofText? (s : String) : Option DateTime :=
  let cs := Text.trim s.toList
  match Iso.dateTime? (withoutZulu cs) with
  | some t => some t
  | none => MonthName.dateTime? cs

def ofValue? : Value → Option DateTime
  | .dateTime t => some t
  | .date d => some (ofDate d)
  | .text s => ofText? s
  | _ => none

/-- The instant of universal time that a value denotes, if it denotes one. -/
def instantOf (v : Value) : Except CalendarError (Option DateTime) :=
  match ofValue? v with
  | none => .ok none
  | some t =>
    match t.toUniversal? with
    | some u => .ok (some u)
    | none => .error .outOfRange

/-- The stamp of a time in universal time; a time without an offset is stamped as it is. -/
def stampUniversal (t : DateTime) : Except CalendarError String :=
  match t.toUniversal? with
  | some u => .ok u.stamp
  | none => .error .outOfRange

end DateTime

end CriteriaSearch
