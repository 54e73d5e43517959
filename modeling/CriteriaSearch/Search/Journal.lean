import CriteriaSearch.Page.Expand

/-!
# The journal of an expansion

A source can be made to write down every fetch with its answer. The exchanges of an expansion are
what its source wrote down while a table was expanded.
-/

namespace CriteriaSearch

/-- A request and the answer to it. -/
structure Exchange where
  request : Request
  answer : Except Failure Table

namespace Exchange

/-- The rows that came with an answer. -/
def rows (x : Exchange) : List Row :=
  match x.answer with
  | .ok t => t.rows
  | .error _ => []

end Exchange

/-- The state of a source that keeps a journal. -/
abbrev Journal (σ : Type) := σ × List Exchange

/-- A source that writes down every fetch. -/
def Source.journaled {σ : Type} (source : Source σ) : Source (Journal σ) where
  fetch r := fun (s, journal) =>
    let (answer, s) := source.fetch r s
    (answer, s, journal ++ [⟨r, answer⟩])

namespace Engine

variable {σ : Type}

/-- The engine whose source writes down every fetch. -/
def journaled (x : Engine σ) : Engine (Journal σ) where
  source := x.source.journaled
  settings := x.settings
  hierarchy := x.hierarchy
  schedule := x.schedule
  room := x.room
  room_for_two := x.room_for_two

/-- The fetches that an expansion makes, with their answers. -/
def exchanges (x : Engine σ) (t : Table) (e : Expansion) (s : σ) : List Exchange :=
  (x.journaled.expand t e (s, [])).2.2

end Engine

end CriteriaSearch
