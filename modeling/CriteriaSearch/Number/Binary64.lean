/-!
# Binary floating point

Numbers of 53 significant bits with a sign, infinities and the not-a-number, as values of a
datatype, and their exact arithmetic with integers: every result is the exact rational result
rounded once to the nearest number, a tie to the even significand.
-/

namespace CriteriaSearch

/-- `finite s m e` is `m * 2 ^ e`, negated if `s`; `m < 2 ^ 53`, `-1074 ≤ e ≤ 971`, and `m` has 53
bits unless `e = -1074`. -/
inductive Binary64 where
  | nan
  | infinity (negative : Bool)
  | finite (negative : Bool) (significand : Nat) (exponent : Int)
deriving DecidableEq, Repr

namespace Binary64

def minExponent : Int := -1074

def maxExponent : Int := 971

def zero (negative : Bool) : Binary64 := .finite negative 0 minExponent

/-- The quotient rounded to the nearest integer, a tie to the even one. -/
def roundQuotient (num den : Nat) : Nat :=
  let q := num / den
  let twice := 2 * (num % den)
  if twice < den then q
  else if den < twice then q + 1
  else if q % 2 = 0 then q else q + 1

/-- `num / den * 2 ^ e` as a fraction. -/
def scale (num den : Nat) (e : Int) : Nat × Nat :=
  (num * Nat.pow 2 e.toNat, den * Nat.pow 2 (-e).toNat)

/-- The exponent of the greatest power of two that is at most `num / den`. -/
def floorLog2 (num den : Nat) : Int :=
  let guess : Int := (Nat.log2 num : Int) - Nat.log2 den
  let (n, d) := scale num den (-guess)
  if n < d then guess - 1 else guess

/-- A significand of at most 53 bits, or `2 ^ 53` after a carry. -/
def pack (negative : Bool) (m : Nat) (e : Int) : Binary64 :=
  let (m, e) := if m = Nat.pow 2 53 then (Nat.pow 2 52, e + 1) else (m, e)
  if maxExponent < e then .infinity negative else .finite negative m e

/-- The number nearest to `num / den`. -/
def ofRatio (negative : Bool) (num den : Nat) : Binary64 :=
  if num = 0 then zero negative
  else
    let e := max (floorLog2 num den - 52) minExponent
    let (n, d) := scale num den (-e)
    pack negative (roundQuotient n d) e

/-- The number nearest to `coefficient * 10 ^ exponent`. Magnitudes far outside the range are
settled by their number of digits. -/
def ofDecimal (negative : Bool) (coefficient : Nat) (exponent : Int) : Binary64 :=
  if coefficient = 0 then zero negative
  else
    let magnitude : Int := (Nat.toDigits 10 coefficient).length + exponent
    if 310 < magnitude then .infinity negative
    else if magnitude < -330 then zero negative
    else ofRatio negative (coefficient * Nat.pow 10 exponent.toNat) (Nat.pow 10 (-exponent).toNat)

/-- The magnitude of a finite number as a fraction. -/
def ratio (m : Nat) (e : Int) : Nat × Nat := scale m 1 e

def isFinite : Binary64 → Bool
  | .finite .. => true
  | _ => false

def isZero : Binary64 → Bool
  | .finite _ m _ => m == 0
  | _ => false

/-- The sum with an integer; an exact zero is positive. -/
def addInt : Binary64 → Int → Binary64
  | .finite negative m e, k =>
    let (num, den) := ratio m e
    let sum : Int := (if negative then -(num : Int) else num) + k * den
    ofRatio (decide (sum < 0)) sum.natAbs den
  | x, _ => x

/-- Why a number is no integer. -/
inductive NotInteger where
  | nan
  | infinite

/-- The integer part, toward zero. -/
def truncate : Binary64 → Except NotInteger Int
  | .nan => .error .nan
  | .infinity _ => .error .infinite
  | .finite negative m e =>
    let (num, den) := ratio m e
    let n := num / den
    .ok (if negative then -(n : Int) else n)

/-- Whether the number is an integer. -/
def isIntegral : Binary64 → Bool
  | .finite _ m e => let (num, den) := ratio m e; num % den == 0
  | _ => false

end Binary64

end CriteriaSearch
