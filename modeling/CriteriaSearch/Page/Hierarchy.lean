import CriteriaSearch.Failure
import CriteriaSearch.Page.Table
import CriteriaSearch.Text.Case

/-!
# Documents in a hierarchy

Documents have two levels: parents and their children. The cells of a row tell its id, the id of its
parent, and whether it is a parent itself. A cell with an integer that is too long for a numeral has
no text; whoever reads it fails.
-/

namespace CriteriaSearch

/-- The names of the cells that describe the hierarchy. -/
structure Hierarchy where
  id : String := "id"
  parent : String := "parent_id"
  name : String := "name"
  isParent : String := "is_parent"
  isExpanded : String := "is_expanded"
deriving DecidableEq, Repr

/-- Whether a row was on the page as it came, and where, or was fetched for it. -/
inductive Origin where
  | hit (position : Nat)
  | fetched
deriving DecidableEq, Repr

/-- A row with its place in the hierarchy. An id or a parent that is missing is empty. -/
structure Node where
  origin : Origin
  row : Row
  id : String
  parent : String
  isParent : Bool

/-- Two rows with equal ids and equal parents are the same document. -/
abbrev Key := String × String

def Node.key (n : Node) : Key := (n.id, n.parent)

/-- Whether the first item of a cell says yes. -/
def Value.isFlag (v : Value) : Bool :=
  match v.first with
  | .bool b => b
  | .text s => ["true", "t", "yes", "y", "1"].any (Text.isWord · (Text.trim s.toList))
  | .int n => n != 0
  | .float x => !x.isZero
  | _ => false

namespace Hierarchy

/-- The text of the first item of a cell, if it can be written; empty for null. -/
def cell (row : Row) (name : String) : Except NumeralError String :=
  let v := (Row.get row name).first
  if v.isNull then .ok "" else v.written

/-- The text of a cell; empty if it has none. -/
def cellText (row : Row) (name : String) : String := (cell row name).toOption.getD ""

/-- The texts of the cells of rows, as far as all of them have one. -/
def texts (names : List String) (rows : List Row) : Except Failure (List (List String)) :=
  (rows.mapM fun row => names.mapM (cell row)).mapError fun cause => .operand (.numeral cause)

/-- The cells that make up the key of a row. -/
def keyNames (h : Hierarchy) : List String := [h.id, h.parent]

def node (h : Hierarchy) (origin : Origin) (row : Row) : Node where
  origin
  row
  id := cellText row h.id
  parent := cellText row h.parent
  isParent := (Row.get row h.isParent).isFlag

/-- The copy of a row that is marked as fetched. -/
def markExpanded (h : Hierarchy) (row : Row) : Row := Named.set row h.isExpanded (.bool true)

/-- A fetched row as it is merged into the page. -/
def expanded (h : Hierarchy) (n : Node) : Node := h.node .fetched (h.markExpanded n.row)

/-- The rows of a page with their positions. -/
def page (h : Hierarchy) (rows : List Row) : List Node :=
  rows.zipIdx.map fun (row, i) => h.node (.hit i) row

/-- The rows of a page, if their keys can be read. -/
def readPage (h : Hierarchy) (rows : List Row) : Except Failure (List Node) :=
  (texts h.keyNames rows).map fun _ => h.page rows

end Hierarchy

end CriteriaSearch
