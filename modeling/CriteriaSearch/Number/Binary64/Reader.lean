import CriteriaSearch.Number.Binary64
import CriteriaSearch.Number.Numeral
import CriteriaSearch.Text.Case

/-!
# Reading binary numbers

A decimal numeral with an optional point and exponent, or a name for infinity or not-a-number.
Digits of any script and underscores between digits are allowed.
-/

namespace CriteriaSearch.Binary64

open Text

/-- A numeral cut at the exponent mark. -/
def cutExponent (cs : List Char) : List Char × Option (List Char) :=
  let isMark := fun c : Char => c == 'e' || c == 'E'
  match cs.dropWhile (!isMark ·) with
  | [] => (cs, none)
  | _ :: exponent => (cs.takeWhile (!isMark ·), some exponent)

/-- Digits around an optional point, at least one of them: all digits, and how many of them stand
after the point. -/
def pointed? (cs : List Char) : Option (List Nat × Nat) :=
  match splitAt '.' cs with
  | [whole] => do
    let digits ← Numeral.digits? whole
    return (digits, 0)
  | [whole, fraction] =>
    if whole.isEmpty && fraction.isEmpty then none
    else do
      let before ← if whole.isEmpty then some [] else Numeral.digits? whole
      let after ← if fraction.isEmpty then some [] else Numeral.digits? fraction
      return (before ++ after, after.length)
  | _ => none

def ofBody? (negative : Bool) (cs : List Char) : Option Binary64 := do
  let (mantissa, exponent) := cutExponent cs
  let (digits, places) ← pointed? mantissa
  let power : Int ← match exponent with
    | none => some 0
    | some e =>
      let (minus, ds) := Numeral.sign e
      (Numeral.digits? ds).map fun ds => Numeral.signed minus (positional ds)
  return ofDecimal negative (positional digits) (power - places)

def ofText? (cs : List Char) : Option Binary64 :=
  let (negative, body) := Numeral.sign (trimBy Numeral.isMargin cs)
  if isWord "inf" body || isWord "infinity" body then some (.infinity negative)
  else if isWord "nan" body then some .nan
  else ofBody? negative body

end CriteriaSearch.Binary64
