import CriteriaSearch.Text.Blank
import CriteriaSearch.Text.Digit

/-!
# Integer numerals

Integers are read from digits of any script, with a sign, with single underscores between digits
and with margins of white space, and are written in ASCII. Numerals of more than `maxDigits` digits
are neither read nor written.
-/

namespace CriteriaSearch.Numeral

open Text

def maxDigits : Nat := 4300

/-- White space around a numeral; of ASCII only the blank, the tab and the line controls. -/
def isMargin (c : Char) : Bool :=
  if c.toNat < 128 then c == ' ' || (9 ≤ c.toNat && c.toNat ≤ 13) else isBlank c

/-- The sign in front, whether it is a minus, and what follows. -/
def sign : List Char → Bool × List Char
  | '-' :: cs => (true, cs)
  | '+' :: cs => (false, cs)
  | cs => (false, cs)

mutual

/-- One digit or more, with single underscores between digits. -/
def digits? : List Char → Option (List Nat)
  | [] => none
  | c :: cs => do return (← digit? c) :: (← moreDigits? cs)

/-- What may follow a digit. -/
def moreDigits? : List Char → Option (List Nat)
  | [] => some []
  | '_' :: cs => digits? cs
  | c :: cs => do return (← digit? c) :: (← moreDigits? cs)

end

def signed (negative : Bool) (n : Nat) : Int := if negative then -n else n

/-- The integer that a numeral denotes. -/
def int? (cs : List Char) : Option Int :=
  let (negative, body) := sign (trimBy isMargin cs)
  match digits? body with
  | some ds => if ds.length ≤ maxDigits then some (signed negative (positional ds)) else none
  | none => none

/-- The number of decimal digits; zero has one. -/
def width (n : Nat) : Nat := (Nat.toDigits 10 n).length

def text (n : Int) : String := toString n

/-- The numeral of an integer, unless it is too long. -/
def text? (n : Int) : Option String :=
  if width n.natAbs ≤ maxDigits then some (text n) else none

end CriteriaSearch.Numeral
