import CriteriaSearch.Page.Table
import CriteriaSearch.Query

/-!
# Sources of results

A source answers a query with a table or a failure, and its state may change with every fetch.
-/

namespace CriteriaSearch

/-- A query together with the window that overrides its own. -/
structure Request where
  query : Query
  offset : Option Int := none
  limit : Option Int := none
deriving DecidableEq, Repr

/-- The query with the window that is asked for. -/
def Request.windowed (r : Request) : Query :=
  r.query.withWindow (r.offset.getD r.query.offset) (r.limit.getD r.query.limit)

structure Source (σ : Type) where
  fetch : Request → StateM σ (Except Failure Table)

namespace Source

/-- A source without memory. -/
def ofFunction (answer : Request → Except Failure Table) : Source Unit where
  fetch r := pure (answer r)

end Source

/-- Failures of a search pass unchanged; others are wrapped by `wrap` with their message. -/
def Failure.asSearchFailure (wrap : String → ExecutionError) (f : Failure) : Failure :=
  if f.isSearchFailure then f else .execution (wrap f.message)

end CriteriaSearch
