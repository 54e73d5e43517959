import CriteriaSearch.Value.Text

/-!
# Criteria

Conditions and sort orders on fields, in order, with the paging of a search. Entries on control
fields are directives: a relevance query, a whole request URL, a handler, an extra parameter, an
expansion.
-/

namespace CriteriaSearch

/-- How the operands of a condition are read. -/
inductive ValueType where
  | text
  | number
  | dateTime
  | boolean
  | other (name : String)
deriving DecidableEq, Repr

namespace ValueType

def known : List ValueType := [.text, .number, .dateTime, .boolean]

def name : ValueType → String
  | .text => "text"
  | .number => "number"
  | .dateTime => "datetime"
  | .boolean => "boolean"
  | .other name => name

def ofName (name : String) : ValueType :=
  (known.find? (·.name == name)).getD (.other name)

/-- The type of an operand whose type is not given. -/
def ofValue : Value → ValueType
  | .bool _ => .boolean
  | .int _ | .float _ | .decimal _ => .number
  | .dateTime _ | .date _ => .dateTime
  | _ => .text

end ValueType

inductive Operator where
  | equal
  | notEqual
  | contains
  | notContains
  | startsWith
  | endsWith
  | greater
  | greaterEqual
  | less
  | lessEqual
  | between
  | notBetween
  | within
  | isIn
  | notIn
  | sort
  | other (name : String)
deriving DecidableEq, Repr

namespace Operator

def known : List Operator :=
  [.equal, .notEqual, .contains, .notContains, .startsWith, .endsWith, .greater, .greaterEqual,
    .less, .lessEqual, .between, .notBetween, .within, .isIn, .notIn, .sort]

def name : Operator → String
  | .equal => "EQUAL"
  | .notEqual => "NOT_EQUAL"
  | .contains => "CONTAINS"
  | .notContains => "NOT_CONTAINS"
  | .startsWith => "STARTS_WITH"
  | .endsWith => "ENDS_WITH"
  | .greater => "GREATER_THAN"
  | .greaterEqual => "GREATER_THAN_EQUAL"
  | .less => "LESS_THAN"
  | .lessEqual => "LESS_THAN_EQUAL"
  | .between => "BETWEEN"
  | .notBetween => "NOT_BETWEEN"
  | .within => "BETWEEN_INCLUSIVE"
  | .isIn => "IN"
  | .notIn => "NOT_IN"
  | .sort => "SORT"
  | .other name => name

def ofName (name : String) : Operator :=
  (known.find? (·.name == name)).getD (.other name)

end Operator

/-- How a condition joins the one before it. -/
inductive Conjunction where
  | and
  | or
  | other (name : String)
deriving DecidableEq, Repr

namespace Conjunction

def name : Conjunction → String
  | .and => "AND"
  | .or => "OR"
  | .other name => name

def ofName (name : String) : Conjunction :=
  if name = "AND" then .and else if name = "OR" then .or else .other name

end Conjunction

structure Criterion where
  field : String
  valueType : ValueType
  operator : Operator
  values : List Value
  conjunction : Conjunction := .and

namespace Control

/-- What the name of every control field begins with. -/
def lead : String := "solr__"

def query : String := "solr__query"

def url : String := "solr__url"

def handler : String := "solr__handler"

def param : String := "solr__param"

def expand : String := "solr__expand"

end Control

namespace Criterion

/-- The first operand; null if there is none. -/
def value (c : Criterion) : Value := c.values.head?.getD .null

def isControl (c : Criterion) : Bool := Control.lead.toList.isPrefixOf c.field.toList

end Criterion

/-- Entries in order, and the paging if it is given. -/
structure Criteria where
  entries : List Criterion := []
  offset : Option Int := none
  limit : Option Int := none

namespace Criteria

def push (c : Criteria) (entry : Criterion) : Criteria :=
  { c with entries := c.entries ++ [entry] }

/-- Append a condition. Its value type is that of the first operand unless given, and text if there
is no operand. -/
def add (c : Criteria) (field : String) (operator : Operator) (values : List Value)
    (valueType : Option ValueType := none) (conjunction : Conjunction := .and) : Criteria :=
  let inferred := match values with
    | [] => ValueType.text
    | v :: _ => .ofValue v
  c.push ⟨field, valueType.getD inferred, operator, values, conjunction⟩

def addSort (c : Criteria) (field : String) (direction : Value := .text "asc")
    (valueType : ValueType := .text) : Criteria :=
  c.add field .sort [direction] valueType

/-- Append a directive on a control field. -/
def addControl (c : Criteria) (field : String) (v : Value) : Criteria :=
  c.add field .equal [v] (some .text)

def addQuery (c : Criteria) (v : Value) : Criteria := c.addControl Control.query v

def addUrl (c : Criteria) (v : Value) : Criteria := c.addControl Control.url v

def addHandler (c : Criteria) (v : Value) : Criteria := c.addControl Control.handler v

def addExpansion (c : Criteria) (v : Value) : Criteria := c.addControl Control.expand v

/-- Append a request parameter; its value becomes text, if it can be written. -/
def addParam (c : Criteria) (name : String) (v : Value) : Except NumeralError Criteria := do
  return c.add Control.param .equal [.text name, .text (← v.written)] (some .text)

/-- Append an entry for a text that may be missing. -/
def addGiven (c : Criteria) (add : Criteria → Value → Criteria) (s : Option String) : Criteria :=
  match s with
  | none => c
  | some s => add c (.text s)

/-- The first operand of the last entry on a field that has one which is not null. -/
def controlValue (c : Criteria) (field : String) : Value :=
  c.entries.foldl
    (fun v entry => if entry.field = field ∧ !entry.value.isNull then entry.value else v) .null

end Criteria

end CriteriaSearch
