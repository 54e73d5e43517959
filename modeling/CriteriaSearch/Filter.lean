import CriteriaSearch.Filter.Condition
import CriteriaSearch.Filter.Operand

/-!
# Filter texts

A filter text as criteria: each of its conditions becomes one entry. Fields may be restricted to an
allowed set, and their value types may be declared.
-/

namespace CriteriaSearch

/-- What is known about fields. -/
structure FieldRules where
  allowed : Option (List String) := none
  types : Named ValueType := []

namespace FieldRules

/-- Refuse a name that is no field, or no allowed one. -/
def check (rules : FieldRules) (field : List Char) : Except FilterError Unit :=
  let name := String.ofList field
  if !Filter.Condition.isField field then .error (.invalidField name)
  else match rules.allowed with
    | none => .ok ()
    | some names => if names.contains name then .ok () else .error (.unknownField name names)

/-- The declared type of a field, or else the type that its operand has by its look. -/
def typeOf (rules : FieldRules) (field : List Char) (look : ValueType) : ValueType :=
  (rules.types.get? (String.ofList field)).getD look

end FieldRules

namespace Filter

/-- The words before a list, with their operators. -/
def keywords : List (String × Operator) :=
  [("in", .isIn), ("not in", .notIn), ("between", .between), ("not between", .notBetween),
    ("within", .within)]

/-- Operators that compare text whatever the type of the field. -/
def isTextual : Operator → Bool
  | .contains | .notContains | .startsWith | .endsWith => true
  | _ => false

/-- Operators that need an order of the values. -/
def isOrdering : Operator → Bool
  | .greater | .greaterEqual | .less | .lessEqual => true
  | _ => false

/-- Operators that take any number of operands. -/
def isMembership : Operator → Bool
  | .isIn | .notIn => true
  | _ => false

/-- The entry of a condition; `text` is the condition as it is shown in messages. -/
def entryOf (rules : FieldRules) (how : Conjunction) (text : String) :
    Condition → Except FilterError Criterion
  | .sort field direction => do
    rules.check field
    let word := String.ofList (Text.lowerLetters direction)
    return ⟨String.ofList field, .text, .sort, [.text word], .and⟩
  | .list field keyword operands => do
    rules.check field
    let word := String.ofList (Text.lowerLetters keyword)
    match keywords.lookup word with
    | none => .error .unknownKeyword
    | some operator =>
      match ← Operand.listOf operands with
      | [] => .error (.noValues word text)
      | o :: rest =>
        if !isMembership operator && rest.length != 1 then .error (.notTwoValues word text)
        else
          let valueType := rules.typeOf field o.valueType
          let values := (o :: rest).map (·.coerce valueType)
          return ⟨String.ofList field, valueType, operator, values, how⟩
  | .symbol field sign operator operand => do
    rules.check field
    let o ← Operand.ofText operand
    let valueType := if isTextual operator then .text else rules.typeOf field o.valueType
    if isOrdering operator && !(valueType == .number || valueType == .dateTime) then
      .error (.notOrdered sign text)
    else return ⟨String.ofList field, valueType, operator, [o.coerce valueType], how⟩

/-- The entry of one condition of a filter text. -/
def entry (rules : FieldRules) (part : Conjunction × List Char) : Except FilterError Criterion :=
  let text := String.ofList part.2
  match Condition.ofText? part.2 with
  | none => .error (.invalidSyntax text)
  | some condition => entryOf rules part.1 text condition

/-- The entries of conditions up to the first that is refused, and why it is. -/
def entries (rules : FieldRules) :
    List (Conjunction × List Char) → List Criterion × Option FilterError
  | [] => ([], none)
  | part :: parts =>
    match entry rules part with
    | .error e => ([], some e)
    | .ok c => let (cs, e) := entries rules parts; (c :: cs, e)

/-- The entries of a filter text. -/
def parse (rules : FieldRules) (text : String) : List Criterion × Option FilterError :=
  entries rules (split text.toList)

/-- A short description of filter texts. -/
def guide : String :=
  "Supported filter syntax: "
    ++ "`field=value`, `field!=value`, `field>=value`, `field<=value`, "
    ++ "`field>value`, `field<value`, `field~substring`, `field!~substring`, "
    ++ "`field^=prefix`, `field$=suffix`, `field in (a, b)`, `field not in (a, b)`, "
    ++ "`field between (a, b)`, `field not between (a, b)`, `field within (a, b)`, "
    ++ "`sort field desc`; combine with comma, `and` or `or`."

end Filter

namespace Criteria

/-- Append the entries of a filter text; those before a refused condition stay. -/
def addFilter (c : Criteria) (rules : FieldRules) (text : String) :
    Criteria × Option FilterError :=
  let (entries, error) := Filter.parse rules text
  ({ c with entries := c.entries ++ entries }, error)

end Criteria

end CriteriaSearch
