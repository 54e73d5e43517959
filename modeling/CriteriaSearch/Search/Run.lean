import CriteriaSearch.Page.Expand

/-!
# Searches

A search compiles criteria, fetches a page, and expands it if the criteria ask for that. A count
fetches an empty page for the number of documents found.
-/

namespace CriteriaSearch.Engine

variable {σ : Type}

/-- The window that a search overrides. -/
structure Window where
  offset : Option Int := none
  limit : Option Int := none

/-- Fetch a page of results. -/
def fetchPage (x : Engine σ) (criteria : Criteria) (w : Window) :
    StateM σ (Except Failure Table) :=
  match Query.compile x.settings criteria with
  | .error e => return .error e
  | .ok query => x.fetchAs .searchFailed { query, offset := w.offset, limit := w.limit }

/-- A page of results, expanded as the last expansion entry says. -/
def search (x : Engine σ) (criteria : Criteria) (w : Window := {}) :
    StateM σ (Except Failure Table) := do
  match ← x.fetchPage criteria w with
  | .error e => return .error e
  | .ok t =>
    let directive := criteria.controlValue Control.expand
    if directive.isNull then return .ok t
    else
      match Expansion.ofText directive.toText with
      | .error e => return .error e
      | .ok e => return (← x.expand t e).outcome

/-- The number of documents that match. -/
def count (x : Engine σ) (criteria : Criteria) : StateM σ (Except Failure Int) := do
  return (← x.fetchPage criteria { offset := some 0, limit := some 0 }).map (·.totalFound)

end CriteriaSearch.Engine
