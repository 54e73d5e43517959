import CriteriaSearch.Number.Numeral
import CriteriaSearch.Text.Case

/-!
# Decimal numbers

Decimal floating point: a coefficient and a power of ten, kept as written, with infinities and
not-a-numbers. Sums are rounded to 28 digits, a tie to the even digit.
-/

namespace CriteriaSearch

inductive Decimal where
  | finite (negative : Bool) (coefficient : Nat) (exponent : Int)
  | infinity (negative : Bool)
  | nan (negative signalling : Bool) (payload : Nat)
deriving DecidableEq, Repr

namespace Decimal

open Text Numeral

/-- Greatest exponent of the leading digit of a number that can be written down. -/
def maxWritten : Int := 999999999999999999

/-- Least exponent of a number that can be written down. -/
def minWritten : Int := -1999999999999999997

/-- The exponent of the leading digit. -/
def adjusted (coefficient : Nat) (exponent : Int) : Int := exponent + width coefficient - 1

/-- Digits without underscores; none may be missing. -/
def allDigits? (cs : List Char) : Option (List Nat) := cs.mapM digit?

/-- Digits around an optional point: all digits, and how many stand after the point. -/
def mantissa? (cs : List Char) : Option (List Nat × Nat) := do
  match splitAt '.' cs with
  | [whole] => return (← allDigits? whole, 0)
  | [whole, fraction] => return (← allDigits? (whole ++ fraction), fraction.length)
  | _ => none

def finite? (negative : Bool) (cs : List Char) : Option Decimal := do
  let isMark := fun c : Char => c == 'e' || c == 'E'
  let (digits, places) ← mantissa? (cs.takeWhile (!isMark ·))
  if digits.isEmpty then none
  let power : Int ← match cs.dropWhile (!isMark ·) with
    | [] => some 0
    | _ :: e =>
      let (minus, ds) := sign e
      if ds.isEmpty then none
      else (allDigits? ds).map fun ds => signed minus (positional ds)
  let coefficient := positional digits
  let exponent := power - places
  let top := if coefficient = 0 then exponent else adjusted coefficient exponent
  if top ≤ maxWritten ∧ minWritten ≤ exponent then some (.finite negative coefficient exponent)
  else none

/-- A not-a-number with the digits of its payload. -/
def nan? (negative signalling : Bool) (payload : List Char) : Option Decimal :=
  (allDigits? payload).map fun ds => .nan negative signalling (positional ds)

def ofText? (cs : List Char) : Option Decimal :=
  let (negative, body) := sign ((trim cs).filter (· != '_'))
  let word := lower body
  if word == "inf".toList || word == "infinity".toList then some (.infinity negative)
  else match afterPrefix? "nan".toList word with
    | some payload => nan? negative false payload
    | none => match afterPrefix? "snan".toList word with
      | some payload => nan? negative true payload
      | none => finite? negative body

def signText (negative : Bool) : List Char := if negative then ['-'] else []

/-- Positional while the exponent is not positive and at most six places follow the point before
the leading digit; with exponent elsewhere. -/
def finiteText (coefficient : Nat) (exponent : Int) : List Char :=
  let digits := Nat.toDigits 10 coefficient
  let top := adjusted coefficient exponent
  if exponent ≤ 0 ∧ -6 ≤ top then
    let places := (-exponent).toNat
    if places = 0 then digits
    else if places < digits.length then
      digits.take (digits.length - places) ++ '.' :: digits.drop (digits.length - places)
    else '0' :: '.' :: List.replicate (places - digits.length) '0' ++ digits
  else
    let head := match digits with
      | [] => []
      | [d] => [d]
      | d :: rest => d :: '.' :: rest
    head ++ 'E' :: (if top < 0 then '-' else '+') :: Nat.toDigits 10 top.natAbs

def text : Decimal → String
  | .finite negative coefficient exponent =>
    String.ofList (signText negative ++ finiteText coefficient exponent)
  | .infinity negative => String.ofList (signText negative ++ "Infinity".toList)
  | .nan negative signalling payload =>
    String.ofList (signText negative ++ (if signalling then "sNaN" else "NaN").toList
      ++ (if payload = 0 then [] else Nat.toDigits 10 payload))

def isFinite : Decimal → Bool
  | .finite .. => true
  | _ => false

def isZero : Decimal → Bool
  | .finite _ c _ => c == 0
  | _ => false

/-! ### Sums -/

/-- Digits of a sum. -/
def precision : Nat := 28

def maxExponent : Int := 999999

def minExponent : Int := -999999

/-- The least exponent of a sum. -/
def tinyExponent : Int := minExponent - precision + 1

/-- Why a sum has no result. -/
inductive SumError where
  | signalling
  | overflow
deriving DecidableEq, Repr

/-- The quotient by `10 ^ places`, a tie to the even digit. -/
def shiftRight (coefficient places : Nat) : Nat :=
  let den := Nat.pow 10 places
  let q := coefficient / den
  let twice := 2 * (coefficient % den)
  if twice < den then q
  else if den < twice then q + 1
  else if q % 2 = 0 then q else q + 1

/-- Round to `precision` digits; a carry may leave one digit more, which is a zero. -/
def roundDigits (c : Nat) (e : Int) : Nat × Int :=
  let extra := width c - precision
  if extra = 0 then (c, e)
  else
    let c := shiftRight c extra
    if width c = precision + 1 then (c / 10, e + extra + 1) else (c, e + extra)

/-- Bring a sum into range. -/
def finish (negative : Bool) (c : Nat) (e : Int) : Except SumError Decimal :=
  if c = 0 then .ok (.finite negative 0 (max tinyExponent (min e maxExponent)))
  else
    let (c, e) :=
      if adjusted c e < minExponent ∧ e < tinyExponent then
        let places := (tinyExponent - e).toNat
        (if width c < places then 0 else shiftRight c places, tinyExponent)
      else roundDigits c e
    if maxExponent < adjusted c e then .error .overflow else .ok (.finite negative c e)

/-- The operand with the lesser exponent, replaced by the least that still decides the rounding
when it lies far below the last digit of the other operand. -/
def nearby (c : Nat) (e : Int) (small : Nat) (smallExponent : Int) : Nat × Int :=
  let digits := width c
  let floor : Int := e - 1 + (if precision < digits then 0 else (digits : Int) - precision - 1)
  if adjusted small smallExponent < floor then (min small 1, floor) else (small, smallExponent)

/-- Both coefficients over the lesser exponent. -/
def align (c₁ : Nat) (e₁ : Int) (c₂ : Nat) (e₂ : Int) : Nat × Nat × Int :=
  if e₁ = e₂ then (c₁, c₂, e₁)
  else if e₂ < e₁ then
    if c₁ = 0 then (0, c₂, e₂)
    else let (c₂, e₂) := nearby c₁ e₁ c₂ e₂; (c₁ * Nat.pow 10 (e₁ - e₂).toNat, c₂, e₂)
  else
    if c₂ = 0 then (c₁, 0, e₁)
    else let (c₁, e₁) := nearby c₂ e₂ c₁ e₁; (c₁, c₂ * Nat.pow 10 (e₂ - e₁).toNat, e₁)

/-- The sum with an integer. -/
def addInt : Decimal → Int → Except SumError Decimal
  | .nan _ true _, _ => .error .signalling
  | .nan negative false payload, _ =>
    .ok (.nan negative false (payload % Nat.pow 10 precision))
  | .infinity negative, _ => .ok (.infinity negative)
  | .finite negative c e, k =>
    let other := decide (k < 0)
    let (a, b, exponent) := align c e k.natAbs 0
    if negative = other then finish negative (a + b) exponent
    else if a = b then finish false 0 exponent
    else if a < b then finish other (b - a) exponent
    else finish negative (a - b) exponent

/-- Why a decimal is no integer. -/
inductive NotInteger where
  | nan
  | infinite

/-- The integer part, toward zero. -/
def truncate : Decimal → Except NotInteger Int
  | .nan .. => .error .nan
  | .infinity _ => .error .infinite
  | .finite negative c e => .ok (signed negative (c * Nat.pow 10 e.toNat / Nat.pow 10 (-e).toNat))

end Decimal

end CriteriaSearch
