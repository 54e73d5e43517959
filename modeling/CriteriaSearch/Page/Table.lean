import CriteriaSearch.Criteria

/-!
# Result tables

Rows of cells under typed columns, with the number of all documents found and the window that was
asked for.
-/

namespace CriteriaSearch

structure Column where
  name : String
  type : ValueType := .text
deriving DecidableEq, Repr

structure Table where
  columns : List Column := []
  rows : List Row := []
  name : String := "Solr Document"
  totalFound : Int := 0
  offset : Int := 0
  limit : Int := 0
deriving Inhabited

namespace Column

/-- The type of the column of a cell; a list has the type of its first item. -/
def typeOf (v : Value) : ValueType :=
  let v := match v with
    | .list items => items.head?.getD .null
    | v => v
  match v with
  | .bool _ => .boolean
  | .int _ | .float _ => .number
  | .dateTime _ | .date _ => .dateTime
  | _ => .text

end Column

namespace Table

def addColumn (t : Table) (c : Column) : Table :=
  if t.columns.any (·.name == c.name) then t else { t with columns := t.columns ++ [c] }

/-- Take the cells of a row into columns: a name gets its column with its first cell that is not
null. -/
def columnsOfRow (columns : List Column) (row : Row) : List Column :=
  row.foldl
    (fun columns (name, v) =>
      if v.isNull || columns.any (·.name == name) then columns
      else columns ++ [⟨name, Column.typeOf v⟩])
    columns

/-- The columns of rows in the order in which their names appear. -/
def inferColumns (rows : List Row) : List Column := rows.foldl columnsOfRow []

/-- A table with the columns of its rows. All documents found are the rows, unless their number is
given. -/
def ofRows (rows : List Row) (totalFound : Option Int := none) (offset : Int := 0)
    (limit : Int := 0) (name : String := "Solr Document") : Table :=
  { columns := inferColumns rows, rows, name, totalFound := totalFound.getD rows.length, offset,
    limit }

/-- Whether a column or a row has a name. -/
def hasColumn (t : Table) (name : String) : Bool :=
  t.columns.any (·.name == name) || t.rows.any (Named.has · name)

end Table

end CriteriaSearch
