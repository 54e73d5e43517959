import CriteriaSearch.Named
import CriteriaSearch.Number.Binary64
import CriteriaSearch.Number.Decimal
import CriteriaSearch.Time.DateTime

/-!
# Values

The operands of conditions and the cells of result rows: scalars of several kinds, lists, tuples,
and records whose fields keep their order.
-/

namespace CriteriaSearch

inductive Value where
  | null
  | bool (b : Bool)
  | int (n : Int)
  | float (x : Binary64)
  | decimal (d : Decimal)
  | text (s : String)
  | dateTime (t : DateTime)
  | date (d : Calendar.Date)
  | tuple (items : List Value)
  | list (items : List Value)
  | record (fields : List (String × Value))
deriving Inhabited

/-- The cells of a row by name. -/
abbrev Row := Named Value

/-- The cell with a name; a missing cell is null. -/
def Row.get (row : Row) (name : String) : Value := (Named.get? row name).getD .null

namespace Value

def isNull : Value → Bool
  | .null => true
  | _ => false

/-- Null, false, zero and the empty text, list and record are no value. -/
def isTruthy : Value → Bool
  | .null => false
  | .bool b => b
  | .int n => n != 0
  | .float x => !x.isZero
  | .decimal d => !d.isZero
  | .text s => s != ""
  | .dateTime _ => true
  | .date _ => true
  | .tuple items => !items.isEmpty
  | .list items => !items.isEmpty
  | .record fields => !fields.isEmpty

/-- The first item of a list or tuple, or null if it is empty; any other value itself. -/
def first : Value → Value
  | .list items => items.head?.getD .null
  | .tuple items => items.head?.getD .null
  | v => v

end Value

end CriteriaSearch
