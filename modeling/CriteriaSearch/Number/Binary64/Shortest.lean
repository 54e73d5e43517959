import CriteriaSearch.Number.Binary64

/-!
# Shortest decimals

A binary number is written with the fewest significant digits that read back as the same number;
of the decimals with that many digits the nearest is taken, a tie going to the even digit.
-/

namespace CriteriaSearch.Binary64

/-- `digits * 10 ^ exponent`. -/
structure Decimal10 where
  digits : Nat
  exponent : Int

/-- The reals that round to a finite number, as numerators over a common denominator: the number
itself, the two ends, and whether the ends belong. -/
structure Interval where
  low : Nat
  value : Nat
  high : Nat
  den : Nat
  closed : Bool

/-- Half way to both neighbours; below a power of two the neighbour is nearer. -/
def interval (m : Nat) (e : Int) : Interval :=
  let below := if m = Nat.pow 2 52 ∧ minExponent < e then 1 else 2
  let (low, den) := scale (4 * m - below) 4 e
  let (value, _) := scale (4 * m) 4 e
  let (high, _) := scale (4 * m + 2) 4 e
  ⟨low, value, high, den, m % 2 = 0⟩

def Interval.contains (i : Interval) (num den : Nat) : Bool :=
  let x := num * i.den
  let low := i.low * den
  let high := i.high * den
  if i.closed then low ≤ x && x ≤ high else low < x && x < high

/-- The candidate with the grid `10 ^ k`: of the two multiples around the value the nearer one that
reads back. -/
def onGrid (i : Interval) (k : Int) : Option Nat :=
  let num := Nat.pow 10 k.toNat
  let den := Nat.pow 10 (-k).toNat
  let steps := i.value * den / (i.den * num)
  let down := i.contains (steps * num) den
  let up := i.contains ((steps + 1) * num) den
  let twice := 2 * (i.value * den - steps * i.den * num)
  let step := i.den * num
  match down, up with
  | true, true =>
    if twice < step then some steps
    else if step < twice then some (steps + 1)
    else if steps % 2 = 0 then some steps else some (steps + 1)
  | true, false => some steps
  | false, true => some (steps + 1)
  | false, false => none

/-- The least `j` from `j` on with `den ≤ num * 10 ^ j`, among the next `fuel`. -/
def leastPower (num den j : Nat) : Nat → Nat
  | 0 => j
  | fuel + 1 => if den ≤ num * Nat.pow 10 j then j else leastPower num den (j + 1) fuel

/-- The greatest `k` with `10 ^ k ≤ num / den`. -/
def floorLog10 (num den : Nat) : Int :=
  if den ≤ num then (Nat.toDigits 10 (num / den)).length - 1
  else -(leastPower num den ((Nat.log2 den - Nat.log2 num) * 3 / 10 - 1) 40 : Nat)

/-- Try one digit, two digits, and so on; seventeen always suffice. -/
def shortestFrom (i : Interval) (top : Int) (digits : Nat) : Nat → Decimal10
  | 0 => ⟨i.value, 0⟩
  | fuel + 1 =>
    let k := top - digits
    match onGrid i k with
    | some n => ⟨n, k⟩
    | none => shortestFrom i top (digits + 1) fuel

/-- The shortest decimal of a positive number. -/
def shortest (m : Nat) (e : Int) : Decimal10 :=
  let i := interval m e
  shortestFrom i (floorLog10 i.value i.den) 0 20

/-- Digits without the zeros at the end, and the number of places before the point. -/
def significant (d : Decimal10) : List Char × Int :=
  let digits := Nat.toDigits 10 d.digits
  let kept := (digits.reverse.dropWhile (· == '0')).reverse
  (kept, digits.length + d.exponent)

/-- Positional notation. -/
def positionalText (digits : List Char) (point : Int) : List Char :=
  if point ≤ 0 then '0' :: '.' :: List.replicate (-point).toNat '0' ++ digits
  else
    let n := point.toNat
    if digits.length ≤ n then
      digits ++ List.replicate (n - digits.length) '0' ++ ['.', '0']
    else digits.take n ++ '.' :: digits.drop n

/-- Exponent notation, with a sign and two digits of exponent at least. -/
def exponentText (digits : List Char) (point : Int) : List Char :=
  let exponent := point - 1
  let power := Nat.toDigits 10 exponent.natAbs
  let head := match digits with
    | [] => []
    | [d] => [d]
    | d :: rest => d :: '.' :: rest
  head ++ 'e' :: (if exponent < 0 then '-' else '+')
    :: (if power.length < 2 then '0' :: power else power)

/-- Positional from `0.0001` up to below `10 ^ 16`, with exponent elsewhere. -/
def magnitudeText (m : Nat) (e : Int) : List Char :=
  if m = 0 then ['0', '.', '0']
  else
    let (digits, point) := significant (shortest m e)
    if -4 < point ∧ point ≤ 16 then positionalText digits point else exponentText digits point

def text : Binary64 → String
  | .nan => "nan"
  | .infinity false => "inf"
  | .infinity true => "-inf"
  | .finite negative m e =>
    String.ofList (if negative then '-' :: magnitudeText m e else magnitudeText m e)

end CriteriaSearch.Binary64
