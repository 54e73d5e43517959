import CriteriaSearch.Page.Expansion
import CriteriaSearch.Page.Hierarchy

/-!
# Merging fetched rows into a page

The rows of a page are placed one by one; before a row stands its parent, and after a parent its
children. A row whose key was placed already is left out; rows without an id are always placed.
-/

namespace CriteriaSearch

/-- What is told about a merge. -/
inductive MergeNote where
  | parentPlaced (parent id : String)
  | childPlaced (parent id : String)
deriving DecidableEq, Repr

/-- A node at its place in the merged page. -/
structure Placed where
  node : Node
  note : Option MergeNote := none

/-- A reconciled page and what was fetched for it: parents, and children by the id of their
parent. -/
structure Family where
  hierarchy : Hierarchy
  expansion : Expansion
  page : List Node
  parents : List Node := []
  children : Named (List Node) := []

/-- Whether a node is a duplicate of one that is placed. -/
def Placed.blocks (placed : List Placed) (n : Node) : Bool :=
  n.id != "" && placed.any (·.node.key == n.key)

/-- Place a node unless it is a duplicate. -/
def Placed.add (placed : List Placed) (n : Node) (note : Option MergeNote := none) : List Placed :=
  if Placed.blocks placed n then placed else placed ++ [⟨n, note⟩]

namespace Family

/-- The children of a parent on the page. -/
def pageChildren (f : Family) (parent : Node) : List Node :=
  f.page.filter fun c => c.id != "" && c.id != parent.id && c.parent == parent.id

def fetchedChildren (f : Family) (parent : Node) : List Node :=
  (f.children.get? parent.id).getD []

/-- Place the children of a parent, those of the page first. -/
def addChildren (f : Family) (placed : List Placed) (parent : Node) : List Placed :=
  let placed := (f.pageChildren parent).foldl (fun placed c => Placed.add placed c) placed
  (f.fetchedChildren parent).foldl
    (fun placed c =>
      Placed.add placed (f.hierarchy.expanded c) (some (.childPlaced parent.id c.id)))
    placed

def needsChildren (f : Family) (n : Node) : Bool := f.expansion.includesChildren && n.isParent

/-- The parent of a row, from the page or else from the parents fetched. -/
def parentOf? (f : Family) (n : Node) : Option Node :=
  if f.expansion.includesParents && n.parent != "" then
    f.page.find? (·.id == n.parent)
      <|> (f.parents.find? (·.id == n.parent)).map f.hierarchy.expanded
  else none

/-- Place the parent of a row with its children, unless it is placed already. -/
def addParent (f : Family) (placed : List Placed) (n : Node) : List Placed :=
  match f.parentOf? n with
  | none => placed
  | some p =>
    if Placed.blocks placed p then placed
    else
      let placed := placed ++ [⟨p, some (.parentPlaced n.parent p.id)⟩]
      if f.needsChildren p then f.addChildren placed p else placed

/-- Place a row of the page with its parent before it and its children after it. -/
def addRow (f : Family) (placed : List Placed) (n : Node) : List Placed :=
  let placed := Placed.add (f.addParent placed n) n
  if f.needsChildren n then f.addChildren placed n else placed

/-- The merged page. -/
def merge (f : Family) : List Placed := f.page.foldl f.addRow []

/-- Whether the key of the parent can be read that is placed before a row. -/
def isPlaceable (f : Family) (n : Node) : Bool :=
  (Hierarchy.texts f.hierarchy.keyNames ((f.parentOf? n).toList.map Node.row)).isOk

/-- Read what a merge needs: the ids of the fetched parents, and the keys of the parents that are
placed. -/
def requireKeys (f : Family) : Except Failure Unit := do
  let _ ← Hierarchy.texts [f.hierarchy.id] (f.parents.map Node.row)
  let _ ← Hierarchy.texts f.hierarchy.keyNames ((f.page.filterMap f.parentOf?).map Node.row)

/-- What is told about a merge that stops at the first row whose parent has no key. -/
def interrupted (f : Family) : List MergeNote :=
  if (Hierarchy.texts [f.hierarchy.id] (f.parents.map Node.row)).isOk then
    ((f.page.takeWhile f.isPlaceable).foldl f.addRow []).filterMap Placed.note
  else []

end Family

end CriteriaSearch
