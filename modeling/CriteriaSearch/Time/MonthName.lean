import CriteriaSearch.Text.Blank
import CriteriaSearch.Text.Case
import CriteriaSearch.Text.Digit
import CriteriaSearch.Time.DateTime

/-!
# Texts with the name of the month

Reading `Mon-dd-yyyy HH:MM:SS`: an English month of three letters in any case, fields of one or two
digits of any script, and blanks between date and time.
-/

namespace CriteriaSearch.MonthName

open Text Calendar

def names : List String :=
  ["jan", "feb", "mar", "apr", "may", "jun", "jul", "aug", "sep", "oct", "nov", "dec"]

def month? : List Char → Option (Nat × List Char)
  | a :: b :: c :: cs =>
    let word := lower [a, b, c]
    match names.findIdx? (·.toList == word) with
    | some i => some (i + 1, cs)
    | none => none
  | _ => none

def literal? (c : Char) : List Char → Option (List Char)
  | d :: cs => if c = d then some cs else none
  | [] => none

/-- A field whose first digit, if two are there, is an ASCII digit up to `tens`. -/
def field? (tens : Nat) : List Char → Option (Nat × List Char)
  | a :: b :: cs =>
    match asciiDigit? a, digit? b with
    | some x, some y =>
      if x ≤ tens then some (10 * x + y, cs) else some (x, b :: cs)
    | _, _ => (digit? a).map fun x => (x, b :: cs)
  | [a] => (digit? a).map fun x => (x, [])
  | [] => none

/-- A day of the month: `01` to `31`, with or without the zero, or with a blank for it. -/
def day? : List Char → Option (Nat × List Char)
  | a :: b :: cs =>
    let single : Option (Nat × List Char) := do
      let x ← asciiDigit? a
      if x = 0 then none else some (x, b :: cs)
    match asciiDigit? a with
    | some 3 => if b == '0' || b == '1' then some (30 + (b.toNat - 48), cs) else single
    | some 0 => do
      let y ← asciiDigit? b
      if y = 0 then none else some (y, cs)
    | some x =>
      if x ≤ 2 then (match digit? b with | some y => some (10 * x + y, cs) | none => single)
      else single
    | none => do
      if a != ' ' then none
      let y ← asciiDigit? b
      if y = 0 then none else some (y, cs)
  | [a] => do
    let x ← asciiDigit? a
    if x = 0 then none else some (x, [])
  | [] => none

/-- An hour, of two digits up to `23`. -/
def hour? : List Char → Option (Nat × List Char)
  | '2' :: b :: cs =>
    if b == '0' || b == '1' || b == '2' || b == '3' then some (20 + (b.toNat - 48), cs)
    else some (2, b :: cs)
  | cs => field? 1 cs

def year? (cs : List Char) : Option (Nat × List Char) := do
  let digits ← (cs.take 4).mapM digit?
  if digits.length = 4 then some (positional digits, cs.drop 4) else none

def dateTime? (cs : List Char) : Option DateTime := do
  let (month, cs) ← month? cs
  let cs ← literal? '-' cs
  let (day, cs) ← day? cs
  let cs ← literal? '-' cs
  let (year, cs) ← year? cs
  let rest := cs.dropWhile isBlank
  if rest.length = cs.length then none
  let (hour, cs) ← hour? rest
  let cs ← literal? ':' cs
  let (minute, cs) ← field? 5 cs
  let cs ← literal? ':' cs
  let (second, cs) ← field? 5 cs
  if !cs.isEmpty then none
  let d : Date := ⟨year, month, day⟩
  let time ← DateTime.timeOfDay? hour minute second 0
  if d.isValid then some ⟨d.toDays * DateTime.microsPerDay + time, none⟩ else none

end CriteriaSearch.MonthName
