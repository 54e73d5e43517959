import CriteriaSearch.Number.Binary64.Reader
import CriteriaSearch.Value.Text

/-!
# Values as numbers

Which values denote a number, and the numerals written for them.
-/

namespace CriteriaSearch

inductive Number where
  | int (n : Int)
  | float (x : Binary64)
  | decimal (d : Decimal)
deriving DecidableEq, Repr

namespace Number

def toValue : Number → Value
  | .int n => .int n
  | .float x => .float x
  | .decimal d => .decimal d

/-- The number of a text: an integer numeral, or else a finite decimal, which is rounded to a
binary number. -/
def ofText? (s : String) : Option Number :=
  let cs := Text.trim s.toList
  match Numeral.int? cs with
  | some n => some (.int n)
  | none =>
    match Decimal.ofText? cs with
    | some (.finite negative c e) => some (.float (Binary64.ofDecimal negative c e))
    | _ => none

/-- Integers and decimals are numbers as they are, binary numbers if finite, and other values if
their text is a number. Null and truth values are none. -/
def ofValue : Value → Except NumeralError (Option Number)
  | .null => .ok none
  | .bool _ => .ok none
  | .int n => .ok (some (.int n))
  | .decimal d => .ok (some (.decimal d))
  | .float x => .ok (if x.isFinite then some (.float x) else none)
  | v => v.written.map ofText?

/-- The numeral of a number moved by `shift`. -/
def shiftedText (shift : Int) : Number → Except NumeralError String
  | .int n =>
    match Numeral.text? (n + shift) with
    | some s => .ok s
    | none => .error .tooLong
  | .float x => .ok (x.addInt shift).text
  | .decimal d =>
    match d.addInt shift with
    | .ok sum => .ok sum.text
    | .error .signalling => .error .signallingNaN
    | .error .overflow => .error .outOfRange

end Number

end CriteriaSearch
