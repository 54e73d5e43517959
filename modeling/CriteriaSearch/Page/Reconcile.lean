import CriteriaSearch.Page.Hierarchy

/-!
# The order of a page

Children whose parent is on the page are moved directly under it: the page is walked depth first
from the rows whose parent is not there. Rows that only a cycle of parents reaches come last. Each
level of the walk is a call inside another one, and there is room for so many calls only.
-/

namespace CriteriaSearch

namespace Reconcile

variable {α : Type} [DecidableEq α] (id parent : α → String)

/-- Whether the parent of a row is another document of the page. -/
def isChild (rows : List α) (r : α) : Bool :=
  parent r != "" && parent r != id r && rows.any fun p => id p == parent r

/-- The rows that stand under a row. -/
def children (rows : List α) (r : α) : List α :=
  rows.filter fun c => parent c != "" && parent c != id c && parent c == id r

/-- Append a row and, each with those under it, the rows under it, as far as they are not there
yet. Without room for a row the walk ends. -/
def emit (rows : List α) : Nat → List α → α → Option (List α)
  | 0, out, r => if r ∈ out then some out else none
  | room + 1, out, r =>
    if r ∈ out then some out
    else (children id parent rows r).foldlM (emit rows room) (out ++ [r])

/-- Distinct rows in the order of the hierarchy, if there is room for their levels. -/
def order? (room : Nat) (rows : List α) : Option (List α) := do
  let out ← (rows.filter (!isChild id parent rows ·)).foldlM (emit id parent rows room) []
  rows.foldlM (emit id parent rows room) out

end Reconcile

/-- The nodes of a page in the order of the hierarchy, if there is room for their levels. -/
def reconcile? (room : Nat) (page : List Node) : Option (List Node) :=
  let nodes := page.toArray
  let id := fun i => (nodes[i]?.map Node.id).getD ""
  let parent := fun i => (nodes[i]?.map Node.parent).getD ""
  (Reconcile.order? id parent room (List.range nodes.size)).map (·.filterMap fun i => nodes[i]?)

namespace Hierarchy

/-- The rows of a page in the order of the hierarchy. -/
def arrange (h : Hierarchy) (room : Nat) (rows : List Row) : Except Failure (List Node) := do
  match reconcile? room (← h.readPage rows) with
  | some page => return page
  | none => .error (.tooDeep .calls)

end Hierarchy

end CriteriaSearch
