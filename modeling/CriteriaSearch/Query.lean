import CriteriaSearch.Failure
import CriteriaSearch.Text.Case

/-!
# Queries

What is asked of a collection: a relevance query, filters, a sort order, a window of rows, extra
parameters, and the expansion of the page that comes back.
-/

namespace CriteriaSearch

inductive Direction where
  | asc
  | desc
deriving DecidableEq, Repr

namespace Direction

def name : Direction → String
  | .asc => "asc"
  | .desc => "desc"

/-- Descending if the word for it is given, ascending for everything else. -/
def ofText (cs : List Char) : Direction :=
  let word := Text.trim cs
  if Text.isWord "desc" word || Text.isWord "descending" word then .desc else .asc

def ofValue : Value → Direction
  | .text s => ofText s.toList
  | _ => .asc

end Direction

/-- Names with values in order; a name may occur more than once. -/
abbrev Params := List (String × String)

structure Query where
  query : String := "*:*"
  filters : List String := []
  sort : List (String × Direction) := []
  offset : Int := 0
  limit : Int := 10
  endpoint : String := "/select"
  params : Named String := []
  expansion : Option String := none
deriving DecidableEq, Repr, Inhabited

namespace Query

def withWindow (q : Query) (offset limit : Int) : Query := { q with offset, limit }

/-- The sort order as one parameter, if there is one. -/
def sortParam (q : Query) : Option String :=
  if q.sort.isEmpty then none
  else some (Text.joinWith "," (q.sort.map fun (field, d) => field ++ " " ++ d.name))

/-- The parameters of the request. -/
def toParams (q : Query) : Params :=
  ("q", q.query) :: q.filters.map (fun clause => ("fq", clause))
    ++ (match q.sortParam with | none => [] | some order => [("sort", order)])
    ++ [("start", Numeral.text q.offset), ("rows", Numeral.text q.limit)]
    ++ q.params

/-- The parameters, unless the window has no numerals. -/
def request (q : Query) : Except Failure Params :=
  if (Numeral.text? q.offset).isSome && (Numeral.text? q.limit).isSome then .ok q.toParams
  else .error .windowTooLong

/-- A query as a record with its parts by name. -/
def toRecord (q : Query) : Value :=
  .record [
    ("query", .text q.query),
    ("filters", .list (q.filters.map .text)),
    ("sort", .list (q.sort.map fun (field, d) =>
      .record [("field", .text field), ("direction", .text d.name)])),
    ("offset", .int q.offset),
    ("limit", .int q.limit),
    ("endpoint", .text q.endpoint),
    ("params", .record (q.params.map fun (name, s) => (name, .text s))),
    ("expansion", (q.expansion.map Value.text).getD .null)]

end Query

end CriteriaSearch
