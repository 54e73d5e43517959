import CriteriaSearch.Criteria
import CriteriaSearch.Failure
import CriteriaSearch.Filter.Split
import CriteriaSearch.Number.Binary64.Reader

/-!
# Operands as written

An operand in quotes is text. Without quotes it is a truth value, a number, a date or text, by its
look.
-/

namespace CriteriaSearch.Filter

open Text

/-- An operand as read by its look, and its text for a field whose type is declared. -/
structure Operand where
  value : Value
  valueType : ValueType
  raw : List Char

namespace Operand

/-- What stands between two equal quotes around a text. -/
def unquoted? (cs : List Char) : Option (List Char) :=
  match cs with
  | q :: rest =>
    if isQuote q && rest.getLast? = some q then some rest.dropLast else none
  | [] => none

/-- Digits of any script with an optional minus and an optional fraction: whether it is a numeral,
and whether it has a fraction. -/
def numeralForm? (cs : List Char) : Option Bool :=
  let body := if cs.head? = some '-' then cs.drop 1 else cs
  let isDigits := fun (ds : List Char) => !ds.isEmpty && ds.all isDigit
  match splitAt '.' body with
  | [whole] => if isDigits whole then some false else none
  | [whole, fraction] => if isDigits whole && isDigits fraction then some true else none
  | _ => none

/-! ### Dates -/

/-- What follows `n` digits of any script. -/
def afterDigits? : Nat → List Char → Option (List Char)
  | 0, cs => some cs
  | n + 1, c :: cs => if isDigit c then afterDigits? n cs else none
  | _ + 1, [] => none

/-- What follows a row of digits in groups of the given lengths, with marks between the groups. -/
def afterGroups? (first : Nat) : List (Char × Nat) → List Char → Option (List Char)
  | [], cs => afterDigits? first cs
  | (mark, n) :: groups, cs => do
    match ← afterDigits? first cs with
    | c :: rest => if c = mark then afterGroups? n groups rest else none
    | [] => none

/-- Nothing, a `Z`, or a sign with hours and minutes. -/
def isZone : List Char → Bool
  | [] => true
  | ['Z'] => true
  | c :: cs =>
    (c == '+' || c == '-')
      && (afterGroups? 2 [(':', 2)] cs == some [] || afterDigits? 4 cs == some [])

/-- What follows the digits of a fraction. -/
def afterFraction : List Char → List Char
  | '.' :: c :: cs => if isDigit c then cs.dropWhile isDigit else '.' :: c :: cs
  | cs => cs

/-- Hours and minutes, optional seconds with an optional fraction, and an optional zone. -/
def isClock (cs : List Char) : Bool :=
  match afterGroups? 2 [(':', 2)] cs with
  | some (':' :: rest) =>
    match afterDigits? 2 rest with
    | some rest => isZone (afterFraction rest)
    | none => false
  | some rest => isZone rest
  | none => false

/-- Year, month and day, and an optional clock after `T` or a blank. -/
def isDate (cs : List Char) : Bool :=
  match afterGroups? 4 [('-', 2), ('-', 2)] cs with
  | some [] => true
  | some (c :: rest) => (c == 'T' || c == ' ') && isClock rest
  | none => false

/-! ### Operands -/

/-- An operand without blanks around it. -/
def ofText (cs : List Char) : Except FilterError Operand :=
  match unquoted? cs with
  | some inner => .ok ⟨.text (String.ofList inner), .text, inner⟩
  | none =>
    if isWord "true" cs then .ok ⟨.bool true, .boolean, cs⟩
    else if isWord "false" cs then .ok ⟨.bool false, .boolean, cs⟩
    else match numeralForm? cs with
      | some true => .ok ⟨.float ((Binary64.ofText? cs).getD .nan), .number, cs⟩
      | some false =>
        match Numeral.int? cs with
        | some n => .ok ⟨.int n, .number, cs⟩
        | none => .error .numeralTooLong
      | none =>
        .ok ⟨.text (String.ofList cs), if isDate cs then .dateTime else .text, cs⟩

/-- The value for a field of a given type: of another type than its look, an operand is its text. -/
def coerce (o : Operand) (t : ValueType) : Value :=
  if t = o.valueType then o.value else .text (String.ofList o.raw)

/-- The text between the brackets of a list; brackets may be missing. -/
def unbracketed (cs : List Char) : List Char :=
  match cs, cs.getLast? with
  | '(' :: rest, some ')' => rest.dropLast
  | '[' :: rest, some ']' => rest.dropLast
  | cs, _ => cs

/-- The operands of a list. -/
def listOf (cs : List Char) : Except FilterError (List Operand) :=
  (items none [] (unbracketed (trim cs))).mapM ofText

end Operand

end CriteriaSearch.Filter
