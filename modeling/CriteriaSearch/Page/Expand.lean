import CriteriaSearch.Page.Merge
import CriteriaSearch.Page.Reconcile
import CriteriaSearch.Page.Supplement

/-!
# Expanding a page

A page is put into the order of the hierarchy, the missing parents and children are fetched, and all
rows are merged. The table is written only after the last fetch, so that a failure leaves it as it
was.
-/

namespace CriteriaSearch

/-- What is told about an expansion. -/
inductive ExpansionNote where
  | skipped (table column : String)
  | parentsFetched (ids rows : Nat)
  | merge (note : MergeNote)
  | countBefore (rows : Nat)
  | row (number : Nat) (id parent name : String) (expanded : Bool)
  | countAfter (rows : Nat)
deriving DecidableEq, Repr

namespace ExpansionNote

def text : ExpansionNote → String
  | .skipped table column =>
    "Expansion skipped for " ++ table ++ ": no " ++ Text.quoted column ++ " column"
  | .parentsFetched ids rows =>
    "Parent discovery for " ++ toString ids ++ " ids returned " ++ toString rows ++ " rows"
  | .merge (.parentPlaced parent id) => "Parent expanded (" ++ parent ++ "): [" ++ id ++ "]"
  | .merge (.childPlaced parent id) => "Child expanded (" ++ parent ++ "): [" ++ id ++ "]"
  | .countBefore rows => "Row count before expansion: " ++ toString rows
  | .row number id parent name expanded =>
    DateTime.padded 2 number ++ ": " ++ (if parent = "" then "P" else " C") ++ "-[" ++ id ++ "]"
      ++ (if parent = "" then "" else " (" ++ parent ++ ")") ++ ": "
      ++ (if expanded then "E" else "H") ++ " '" ++ name ++ "'"
  | .countAfter rows => "Row count after expansion: " ++ toString rows

end ExpansionNote

/-- The outcome of an expansion and what was told on the way. -/
structure ExpansionReport where
  outcome : Except Failure Table
  notes : List ExpansionNote := []

namespace Engine

variable {σ : Type}

/-- What is told about a row of an expanded table, if its name can be written. -/
def rowNote? (h : Hierarchy) (row : Row) (number : Nat) : Option ExpansionNote :=
  let n := h.node .fetched row
  let name := (Row.get row h.name).first
  let written := if name.isTruthy then name.written.toOption else some ""
  written.map fun name => .row number n.id n.parent name (Row.get row h.isExpanded).isFlag

/-- What is told about the rows of an expanded table. -/
def rowNotes (h : Hierarchy) (before : Nat) (rows : List Row) : List ExpansionNote :=
  [.countBefore before] ++ rows.zipIdx.filterMap (fun (row, i) => rowNote? h row i)
    ++ [.countAfter rows.length]

/-- What is told about the parents found for a page. -/
def parentNotes : Option (Nat × List Node) → List ExpansionNote
  | none => []
  | some (ids, rows) => [.parentsFetched ids rows.length]

/-- What is told about a merge and the table after it. -/
def mergeNotes (h : Hierarchy) (before : Table) (placed : List Placed) (after : Table) :
    List ExpansionNote :=
  (placed.filterMap (·.note)).map .merge ++ rowNotes h before.rows.length after.rows

/-- The table with the merged rows, and a column for the mark of fetched rows. -/
def withMerged (h : Hierarchy) (t : Table) (placed : List Placed) : Table :=
  let rows := placed.map fun p => p.node.row
  Table.addColumn { t with rows } ⟨h.isExpanded, .boolean⟩

/-- Fetch what a page lacks: its parents and children. -/
def supply (x : Engine σ) (page : List Node) (e : Expansion) :
    StateM σ (Except Failure Family × List ExpansionNote) := do
  match ← (if e.includesParents then x.fetchParents page else return .ok none) with
  | .error cause => return (.error cause, [])
  | .ok found =>
    let parents := (found.map (·.2)).getD []
    let known := page ++ parents
    match ← (if e.includesChildren then x.fetchChildren e known else return .ok []) with
    | .error cause => return (.error cause, parentNotes found)
    | .ok children =>
      return (.ok { hierarchy := x.hierarchy, expansion := e, page, parents, children },
        parentNotes found)

/-- A family that can be merged, or else what was told until a key could not be read. -/
def mergeable (supplied : Except Failure Family × List ExpansionNote) :
    Except Failure Family × List ExpansionNote :=
  match supplied with
  | (.error cause, notes) => (.error cause, notes)
  | (.ok f, notes) =>
    match f.requireKeys with
    | .error cause => (.error cause, notes ++ f.interrupted.map .merge)
    | .ok () => (.ok f, notes)

/-- Put rows into the order of the hierarchy, and fetch what they lack. -/
def gather (x : Engine σ) (rows : List Row) (e : Expansion) :
    StateM σ (Except Failure Family × List ExpansionNote) :=
  match x.hierarchy.arrange x.room rows with
  | .error cause => return (.error cause, [])
  | .ok page => return mergeable (← x.supply page e)

/-- Expand a table in place. Without a mode, rows or ids there is nothing to do; otherwise the table
is written once everything is fetched. -/
def expandInPlace (x : Engine σ) (e : Expansion) :
    StateT Table (StateM σ) (Except Failure Unit × List ExpansionNote) := do
  let t ← get
  if e.mode = .none ∨ t.rows.isEmpty then return (.ok (), [])
  else if !t.hasColumn x.hierarchy.id then
    return (.ok (), [.skipped t.name x.hierarchy.id])
  else
    match ← x.gather t.rows e with
    | (.error cause, notes) => return (.error cause, notes)
    | (.ok f, notes) =>
      let placed := f.merge
      let after := withMerged x.hierarchy t placed
      set after
      return (.ok (), notes ++ mergeNotes x.hierarchy t placed after)

/-- Expand a table; the outcome is the table as it is left, unless there was a failure. -/
def expand (x : Engine σ) (t : Table) (e : Expansion) : StateM σ ExpansionReport := do
  let ((done, notes), after) ← (x.expandInPlace e).run t
  return { outcome := done.map fun _ => after, notes }

end Engine

end CriteriaSearch
