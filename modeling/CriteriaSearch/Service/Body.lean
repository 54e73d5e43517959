import CriteriaSearch.Filter

/-!
# Request bodies

The body of a request to the service: a filter text, structured entries, directives, parameters and
a window, and the criteria that are made of it.
-/

namespace CriteriaSearch

/-- An entry as it is given in a body. -/
structure BodyEntry where
  field : String
  operator : Operator
  values : List Value := []
  valueType : Option ValueType := none
  conjunction : Conjunction := .and

structure Body where
  filters : Option String := none
  entries : List BodyEntry := []
  query : Option String := none
  url : Option String := none
  handler : Option String := none
  expand : Option String := none
  params : Named String := []
  offset : Option Nat := none
  limit : Option Nat := none
  collection : Option String := none

namespace Body

def addParam (c : Criteria) (name s : String) : Except Failure Criteria :=
  (c.addParam name (.text s)).mapError fun cause => .operand (.numeral cause)

/-- The criteria of a body: directives and parameters, then the filter text, then the structured
entries, then the expansion. -/
def criteria (b : Body) : Except Failure Criteria := do
  let c : Criteria := { offset := b.offset.map Int.ofNat, limit := b.limit.map Int.ofNat }
  let c := c.addGiven Criteria.addQuery b.query
  let c := c.addGiven Criteria.addUrl b.url
  let c := c.addGiven Criteria.addHandler b.handler
  let c ← b.params.foldlM (fun c (name, s) => addParam c name s) c
  let c ← match c.addFilter {} (b.filters.getD "") with
    | (c, none) => .ok c
    | (_, some e) => .error (.filter e)
  let c := b.entries.foldl
    (fun c e => c.add e.field e.operator e.values e.valueType e.conjunction) c
  return c.addGiven Criteria.addExpansion b.expand

end Body

end CriteriaSearch
