import CriteriaSearch.Criteria
import CriteriaSearch.Failure
import CriteriaSearch.Text.Case
import CriteriaSearch.Value.Instant

/-!
# Filter clauses

The clause of a condition in the query language. Every pair of a value type and an operator has one
form of clause or none; ranges are inclusive, and an exclusive bound is moved by one unit, which is
1 for numbers and 100 milliseconds for instants.
-/

namespace CriteriaSearch

/-- The shape of a clause around the texts of its operands. -/
inductive ClauseForm where
  /-- The first operand between two texts. -/
  | single (before after : String)
  /-- All operands as alternatives. -/
  | anyOf
  /-- A range from the first operand on. -/
  | atLeast (shift : Int)
  /-- A range up to the first operand. -/
  | atMost (shift : Int)
  /-- A range between two operands. -/
  | range (low high : Int)
deriving DecidableEq, Repr

structure ClauseRule where
  negated : Bool
  form : ClauseForm
deriving DecidableEq, Repr

namespace ClauseRule

/-- The rule for a value type and an operator, if the pair is supported. -/
def find? : ValueType → Operator → Option ClauseRule
  | .text, .equal => some ⟨false, .single "" ""⟩
  | .text, .notEqual => some ⟨true, .single "" ""⟩
  | .text, .contains => some ⟨false, .single "*" "*"⟩
  | .text, .notContains => some ⟨true, .single "*" "*"⟩
  | .text, .startsWith => some ⟨false, .single "" "*"⟩
  | .text, .endsWith => some ⟨false, .single "*" ""⟩
  | .text, .isIn => some ⟨false, .anyOf⟩
  | .text, .notIn => some ⟨true, .anyOf⟩
  | .number, .equal => some ⟨false, .single "" ""⟩
  | .number, .notEqual => some ⟨true, .single "" ""⟩
  | .number, .greater => some ⟨false, .atLeast 1⟩
  | .number, .greaterEqual => some ⟨false, .atLeast 0⟩
  | .number, .less => some ⟨false, .atMost (-1)⟩
  | .number, .lessEqual => some ⟨false, .atMost 0⟩
  | .number, .between => some ⟨false, .range 0 0⟩
  | .number, .notBetween => some ⟨true, .range 0 0⟩
  | .number, .within => some ⟨false, .range (-1) 1⟩
  | .number, .isIn => some ⟨false, .anyOf⟩
  | .number, .notIn => some ⟨true, .anyOf⟩
  | .dateTime, .equal => some ⟨false, .single "" ""⟩
  | .dateTime, .notEqual => some ⟨true, .single "" ""⟩
  | .dateTime, .greater => some ⟨false, .atLeast 0⟩
  | .dateTime, .greaterEqual => some ⟨false, .atLeast (-1)⟩
  | .dateTime, .less => some ⟨false, .atMost 0⟩
  | .dateTime, .lessEqual => some ⟨false, .atMost 1⟩
  | .dateTime, .between => some ⟨false, .range 0 0⟩
  | .dateTime, .notBetween => some ⟨true, .range 0 0⟩
  | .dateTime, .within => some ⟨false, .range (-1) 1⟩
  | .dateTime, .isIn => some ⟨false, .anyOf⟩
  | .dateTime, .notIn => some ⟨true, .anyOf⟩
  | .boolean, .equal => some ⟨false, .single "" ""⟩
  | .boolean, .notEqual => some ⟨true, .single "" ""⟩
  | _, _ => none

end ClauseRule

/-- Operators that have a clause for a value type, and sorting. -/
def supportedOperators (t : ValueType) : List Operator :=
  Operator.known.filter fun op => op == .sort || (ClauseRule.find? t op).isSome

namespace Clause

/-! ### Texts of operands -/

def escapeChar (c : Char) : List Char := if c = '\\' || c = '"' then ['\\', c] else [c]

/-- Whether a text must be quoted. -/
def needsQuotes (cs : List Char) : Bool :=
  cs.any fun c => c == ' ' || c == ':' || c == '-' || c == '+' || c == '/'

/-- A backslash before every backslash and double quote, and double quotes around a text with a
blank or a reserved character. -/
def escape (s : String) : String :=
  let body := s.toList.flatMap escapeChar
  String.ofList (if needsQuotes s.toList then '"' :: body ++ ['"'] else body)

/-- The text of an operand, nothing if it cannot be read, or an error while it is written. -/
abbrev OperandText := Except OperandError (Option String)

/-- An operand as it stands. -/
def plainText (v : Value) : Except OperandError String := v.written.mapError .numeral

def escapedText (v : Value) : OperandText := (plainText v).map fun s => some (escape s)

/-- The numeral of a number that was moved by `shift`. -/
def numberText (v : Value) (shift : Int) : OperandText :=
  match Number.ofValue v with
  | .error e => .error (.numeral e)
  | .ok none => .ok none
  | .ok (some n) =>
    match n.shiftedText shift with
    | .ok s => .ok (some s)
    | .error e => .error (.numeral e)

/-- The unit by which bounds of instants move, in microseconds. -/
def instantUnit : Int := 100000

/-- The stamp of an instant that was moved by `shift` units. -/
def instantText (v : Value) (shift : Int) : OperandText :=
  match DateTime.instantOf v with
  | .error _ => .error .outOfCalendar
  | .ok none => .ok none
  | .ok (some t) =>
    match t.add? (shift * instantUnit) with
    | none => .error .outOfCalendar
    | some t => .ok (some t.stamp)

/-- The truth value that a text names. -/
def truthText (s : String) : Option String :=
  let word := Text.lower (Text.trim s.toList)
  if word == "true".toList then some "true"
  else if word == "false".toList then some "false"
  else none

/-- Truth values, and texts that name one. -/
def booleanText : Value → OperandText
  | .bool true => .ok (some "true")
  | .bool false => .ok (some "false")
  | v => (plainText v).map truthText

/-- An operand as a bound of a range. -/
def boundText : ValueType → Value → Int → OperandText
  | .number, v, shift => numberText v shift
  | .dateTime, v, shift => instantText v shift
  | _, _, _ => .ok none

/-- An operand that stands alone or among alternatives. -/
def termText : ValueType → Value → OperandText
  | .text, v => escapedText v
  | .number, v => numberText v 0
  | .dateTime, v => (instantText v 0).map (·.map escape)
  | .boolean, v => booleanText v
  | .other _, _ => .ok none

/-! ### Clauses -/

/-- All operands in order; the first error wins, and one operand that cannot be read leaves none. -/
def termTexts (t : ValueType) : List Value → Except OperandError (Option (List String))
  | [] => .ok (some [])
  | v :: vs => do
    let first ← termText t v
    let rest ← termTexts t vs
    return do return (← first) :: (← rest)

/-- What stands after the field and its colon. -/
def body (t : ValueType) (values : List Value) : ClauseForm → OperandText
  | .single before after => do
    let v := values.head?.getD .null
    if v.isNull then return none
    return (← termText t v).map fun s => before ++ s ++ after
  | .anyOf => do
    if values.isEmpty then return none
    return (← termTexts t values).map fun terms => "(" ++ Text.joinWith " OR " terms ++ ")"
  | .atLeast shift => do
    let v := values.head?.getD .null
    if v.isNull then return none
    return (← boundText t v shift).map fun s => "[" ++ s ++ " TO *]"
  | .atMost shift => do
    let v := values.head?.getD .null
    if v.isNull then return none
    return (← boundText t v shift).map fun s => "[* TO " ++ s ++ "]"
  | .range lowShift highShift =>
    match values with
    | [v, w] => do
      let low ← boundText t v lowShift
      let high ← boundText t w highShift
      return do return "[" ++ (← low) ++ " TO " ++ (← high) ++ "]"
    | _ => .ok none

end Clause

/-- The clause of a condition, or nothing if it has none. -/
def Criterion.clause? (c : Criterion) : Except OperandError (Option String) :=
  match ClauseRule.find? c.valueType c.operator with
  | none => .ok none
  | some rule => do
    let body ← Clause.body c.valueType c.values rule.form
    return body.map fun s => (if rule.negated then "-" else "") ++ c.field ++ ":" ++ s

end CriteriaSearch
