import CriteriaSearch.Page.Expansion
import CriteriaSearch.Page.Hierarchy
import CriteriaSearch.Query.Compile
import CriteriaSearch.Search.Engine

/-!
# What a page lacks

Which parents and children are fetched for a page, by which requests: one request for all parents
that are missing, and one for the children of each parent.
-/

namespace CriteriaSearch

namespace Supplement

/-- The parents that are named by rows of a page and are not on it. -/
def missingParents (page : List Node) : List String :=
  ((page.map Node.parent).filter fun p => p != "" && !page.any (·.id == p)).eraseDups

/-- The criteria for documents with the given ids. -/
def parentCriteria (h : Hierarchy) (ids : List String) : Criteria :=
  let c : Criteria := { limit := some ids.length }
  (c.addQuery (.text "*:*")).add h.id .isIn (ids.map .text) (some .text)

/-- The ids of the parents among known rows. -/
def parentIds (known : List Node) : List String :=
  ((known.filter fun n => n.isParent && n.id != "").map Node.id).eraseDups

/-- The ids of the known children of a parent. -/
def knownChildren (known : List Node) (parent : String) : List String :=
  ((known.filter fun n => n.parent == parent && n.id != "").map Node.id).eraseDups

/-- The criteria for the children of a parent that are not known yet. -/
def childCriteria (h : Hierarchy) (known : List Node) (parent : String) : Criteria :=
  let c := (({} : Criteria).addQuery (.text "*:*")).add h.parent .equal [.text parent] (some .text)
  match knownChildren known parent with
  | [] => c
  | ids => c.add h.id .notIn (ids.map .text) (some .text)

/-- Rows without those whose key has occurred before. -/
def distinct (rows : List Node) : List Node := rows.eraseDupsBy fun a b => a.key == b.key

end Supplement

namespace Engine

variable {σ : Type}

def nodes (x : Engine σ) (t : Table) : List Node := t.rows.map (x.hierarchy.node .fetched)

/-- The request for missing parents. -/
def parentRequest (x : Engine σ) (ids : List String) : Except Failure Request := do
  return { query := ← Query.compile x.settings (Supplement.parentCriteria x.hierarchy ids) }

/-- The requests for the children of each parent. -/
def childRequests (x : Engine σ) (e : Expansion) (known : List Node) (parents : List String) :
    Except Failure (List Request) :=
  parents.mapM fun p => do
    let query ← Query.compile x.settings (Supplement.childCriteria x.hierarchy known p)
    return { query, offset := some e.offset, limit := some e.limit }

/-- The missing parents of a page, if there are any: how many were asked for, and the rows that
came. -/
def fetchParents (x : Engine σ) (page : List Node) :
    StateM σ (Except Failure (Option (Nat × List Node))) :=
  match Supplement.missingParents page with
  | [] => return .ok none
  | ids =>
    match x.parentRequest ids with
    | .error e => return .error e
    | .ok request => do
      return (← x.fetchSupplement request).map fun t => some (ids.length, x.nodes t)

/-- The requests for the children of all parents among known rows. For this the ids of the rows are
read, and their parents too if there is a parent among them. -/
def requestChildren (x : Engine σ) (e : Expansion) (known : List Node) :
    Except Failure (List Request) := do
  let rows := known.map Node.row
  let _ ← Hierarchy.texts [x.hierarchy.id] rows
  match Supplement.parentIds known with
  | [] => return []
  | parents =>
    let _ ← Hierarchy.texts x.hierarchy.keyNames rows
    x.childRequests e known parents

/-- The children in the replies to the requests for all parents, if their keys can be read. -/
def readChildren (x : Engine σ) (known : List Node) (tables : List Table) :
    Except Failure (Named (List Node)) := do
  let _ ← Hierarchy.texts x.hierarchy.keyNames (tables.flatMap Table.rows)
  return (Supplement.parentIds known).zip (tables.map fun t => Supplement.distinct (x.nodes t))

/-- The children of all parents among known rows, by the id of the parent. -/
def fetchChildren (x : Engine σ) (e : Expansion) (known : List Node) :
    StateM σ (Except Failure (Named (List Node))) :=
  match x.requestChildren e known with
  | .error e => return .error e
  | .ok requests => do return (← x.fetchAll requests).bind (x.readChildren known)

end Engine

end CriteriaSearch
