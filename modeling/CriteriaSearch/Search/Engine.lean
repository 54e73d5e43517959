import CriteriaSearch.Page.Hierarchy
import CriteriaSearch.Search.Source
import CriteriaSearch.Settings

/-!
# Search engines

A source with the settings of its queries and the names of the hierarchy. Requests that do not
depend on each other are carried out one by one or by a pool of workers.
-/

namespace CriteriaSearch

/-- How requests that do not depend on each other are carried out: one after the other up to the
first failure, or all of them, by several workers that take them up in the order `order n` of their
positions `0, …, n - 1`. -/
inductive Schedule where
  | sequential
  | pooled (order : Nat → List Nat) (complete : ∀ n, (order n).Perm (List.range n))

/-- The levels that there is room for unless an engine says otherwise. -/
def usualRoom : Nat := 990

theorem two_le_usualRoom : 2 ≤ usualRoom := by decide

/-- What searches and expansions work with. The room is the number of levels that there can be on a
page; it is enough for parents with children. -/
structure Engine (σ : Type) where
  source : Source σ
  settings : Settings := {}
  hierarchy : Hierarchy := {}
  schedule : Schedule := .sequential
  room : Nat := usualRoom
  room_for_two : 2 ≤ room := by exact two_le_usualRoom

/-- The schedule for a number of workers. -/
def Schedule.ofWorkers (workers : Int) : Schedule :=
  if 1 < workers then .pooled List.range fun _ => .refl _ else .sequential

namespace Engine

variable {σ : Type}

/-- Fetch from the source; a failure that is none of a search is wrapped. -/
def fetchAs (x : Engine σ) (wrap : String → ExecutionError) (r : Request) :
    StateM σ (Except Failure Table) := do
  return (← x.source.fetch r).mapError (·.asSearchFailure wrap)

/-- Fetch additional rows for a page. -/
def fetchSupplement (x : Engine σ) (r : Request) : StateM σ (Except Failure Table) :=
  x.fetchAs .supplementFailed r

/-- Fetch one after the other, and stop at the first failure. -/
def fetchEach (x : Engine σ) : List Request → StateM σ (Except Failure (List Table))
  | [] => return .ok []
  | r :: rs => do
    match ← x.fetchSupplement r with
    | .error e => return .error e
    | .ok t => return (← x.fetchEach rs).map (t :: ·)

/-- Fetch the requests at the given positions; every answer is kept with its position. -/
def fetchAt (x : Engine σ) (requests : List Request) :
    List Nat → StateM σ (List (Nat × Except Failure Table))
  | [] => return []
  | i :: is => do
    match requests[i]? with
    | none => x.fetchAt requests is
    | some r =>
      let answer ← x.fetchSupplement r
      return (i, answer) :: (← x.fetchAt requests is)

/-- The tables of all answers, or the failure of the first request that failed. -/
def collect (requests : List Request) (answers : List (Nat × Except Failure Table)) :
    Except Failure (List Table) :=
  (List.range requests.length).mapM fun i => (answers.lookup i).getD (.ok {})

/-- Carry out requests that do not depend on each other. A single request needs no pool. -/
def fetchAll (x : Engine σ) (requests : List Request) :
    StateM σ (Except Failure (List Table)) :=
  match x.schedule with
  | .sequential => x.fetchEach requests
  | .pooled order _ =>
    if requests.length ≤ 1 then x.fetchEach requests
    else do return collect requests (← x.fetchAt requests (order requests.length))

end Engine

end CriteriaSearch
