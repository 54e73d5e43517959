import CriteriaSearch.Search.Source

/-!
# Replayed answers

A source that answers from a script: first page by page, then by rules on the filters of the query.
It remembers every request.
-/

namespace CriteriaSearch

abbrev Answer := Except Failure Table

/-- An answer to queries with a filter, or to all queries. -/
structure Rule where
  filter : Option String := none
  answer : Answer

structure Replay where
  pages : List Answer := []
  rules : List Rule := []
  requests : List Request := []

namespace Replay

def matchesQuery (q : Query) (r : Rule) : Bool :=
  match r.filter with
  | none => true
  | some clause => q.filters.contains clause

/-- The answer to a query when no page is left. -/
def ruled (s : Replay) (q : Query) : Answer :=
  match s.rules.find? (matchesQuery q) with
  | none => .ok {}
  | some r => r.answer

/-- The next answer, and the script after it. -/
def answer (r : Request) (s : Replay) : Answer × Replay :=
  let requests := s.requests ++ [r]
  match s.pages with
  | page :: pages => (page, { s with pages, requests })
  | [] => (s.ruled r.query, { s with requests })

def source : Source Replay where
  fetch := answer

/-- Lists of texts in the order of their first difference. -/
def filtersLe : List String → List String → Bool
  | [], _ => true
  | _ :: _, [] => false
  | a :: as, b :: bs => if a = b then filtersLe as bs else decide (a < b)

/-- Requests by their filters, for runs whose order of requests is open. -/
def sorted (requests : List Request) : List Request :=
  requests.mergeSort fun a b => filtersLe a.query.filters b.query.filters

end Replay

end CriteriaSearch
