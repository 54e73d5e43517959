import CriteriaSearch.Number.Binary64.Shortest
import CriteriaSearch.Text.Quoted
import CriteriaSearch.Value

/-!
# Values as text

A text stands for itself; inside lists, tuples and records each value is written so that its kind
can be told: texts in quotes, dates and decimals with the name of their kind. An integer that is too
long for a numeral leaves the value around it without a text.
-/

namespace CriteriaSearch

/-- Why a number has no numeral. -/
inductive NumeralError where
  | tooLong
  | signallingNaN
  | outOfRange
deriving DecidableEq, Repr

namespace Value

/-- The days, seconds and microseconds of an offset, seconds and microseconds not negative, as far
as they are not zero. -/
def durationText (micros : Int) : String :=
  let perSecond : Int := DateTime.microsPerSecond
  let perDay : Int := DateTime.microsPerDay
  let days := micros / perDay
  let seconds := micros % perDay / perSecond
  let rest := micros % perSecond
  let parts := [("days", days), ("seconds", seconds), ("microseconds", rest)].filter (·.2 != 0)
  if parts.isEmpty then "datetime.timedelta(0)"
  else
    "datetime.timedelta(" ++ Text.joinWith ", " (parts.map fun p => p.1 ++ "=" ++ toString p.2)
      ++ ")"

def zoneText (micros : Int) : String :=
  if micros = 0 then "datetime.timezone.utc"
  else "datetime.timezone(" ++ durationText micros ++ ")"

def dateDisplay (d : Calendar.Date) : String :=
  "datetime.date(" ++ toString d.year ++ ", " ++ toString d.month ++ ", " ++ toString d.day ++ ")"

/-- The fields of a time; seconds and microseconds only as far as they are needed. -/
def dateTimeDisplay (t : DateTime) : String :=
  let d := t.date
  let clock := if t.micro ≠ 0 then [t.hour, t.minute, t.second, t.micro]
    else if t.second ≠ 0 then [t.hour, t.minute, t.second] else [t.hour, t.minute]
  "datetime.datetime("
    ++ Text.joinWith ", " (([d.year, d.month, d.day] ++ clock).map fun n => toString n)
    ++ (match t.offset with | none => "" | some o => ", tzinfo=" ++ zoneText o) ++ ")"

mutual

/-- A value as it stands inside another one. -/
def display : Value → String
  | .null => "None"
  | .bool true => "True"
  | .bool false => "False"
  | .int n => Numeral.text n
  | .float x => x.text
  | .decimal d => "Decimal('" ++ d.text ++ "')"
  | .text s => Text.quoted s
  | .dateTime t => dateTimeDisplay t
  | .date d => dateDisplay d
  | .tuple [v] => "(" ++ display v ++ ",)"
  | .tuple items => "(" ++ Text.joinWith ", " (displayAll items) ++ ")"
  | .list items => "[" ++ Text.joinWith ", " (displayAll items) ++ "]"
  | .record fields => "\x7b" ++ Text.joinWith ", " (displayFields fields) ++ "\x7d"

def displayAll : List Value → List String
  | [] => []
  | v :: vs => display v :: displayAll vs

def displayFields : List (String × Value) → List String
  | [] => []
  | (name, v) :: fields => (Text.quoted name ++ ": " ++ display v) :: displayFields fields

end

/-- A value as text. -/
def toText : Value → String
  | .text s => s
  | .decimal d => d.text
  | .dateTime t => t.isoText " "
  | .date d => DateTime.dateText d
  | v => display v

mutual

/-- Whether every integer in a value is short enough for a numeral. -/
def isWritable : Value → Bool
  | .int n => (Numeral.text? n).isSome
  | .tuple items => areWritable items
  | .list items => areWritable items
  | .record fields => areFieldsWritable fields
  | _ => true

def areWritable : List Value → Bool
  | [] => true
  | v :: vs => isWritable v && areWritable vs

def areFieldsWritable : List (String × Value) → Bool
  | [] => true
  | (_, v) :: fields => isWritable v && areFieldsWritable fields

end

/-- The text of a value, if it can be written. -/
def written (v : Value) : Except NumeralError String :=
  if v.isWritable then .ok v.toText else .error .tooLong

end Value

end CriteriaSearch
