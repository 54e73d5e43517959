import CriteriaSearch.Text.Blank
import CriteriaSearch.Text.Digit
import CriteriaSearch.Text.Encoding
import CriteriaSearch.Text.Quoted

/-!
# Form data

Names with values in the query part of a URL: pairs separated by `&`, a name and its value by the
first `=`, a blank written as `+`, and bytes of UTF-8 as a percent sign with two hexadecimal digits.
-/

namespace CriteriaSearch.Form

open Text

/-! ### Reading -/

/-- The bytes of a text with percent signs. A percent sign without two digits stands for itself. -/
def bytes : List Char → List UInt8
  | [] => []
  | '%' :: a :: b :: cs =>
    match hexValue? a, hexValue? b with
    | some x, some y => UInt8.ofNat (16 * x + y) :: bytes cs
    | _, _ => String.utf8EncodeChar '%' ++ bytes (a :: b :: cs)
  | c :: cs => String.utf8EncodeChar c ++ bytes cs

/-- A text without its percent signs; an ill-formed piece becomes the replacement character. -/
def unescape (cs : List Char) : List Char := Encoding.lossy (Encoding.utf8 (bytes cs))

/-- A name or a value. -/
def decode (cs : List Char) : List Char :=
  unescape (cs.map fun c => if c = '+' then ' ' else c)

/-- A pair; without `=` the value is empty. -/
def pair (cs : List Char) : String × String :=
  (String.ofList (decode (cs.takeWhile (· != '='))),
    String.ofList (decode ((cs.dropWhile (· != '=')).drop 1)))

/-- The pairs in order; nothing between two separators is no pair. -/
def pairs (cs : List Char) : List (String × String) :=
  ((splitAt '&' cs).filter (!·.isEmpty)).map pair

/-! ### Writing -/

/-- Characters that stand for themselves. -/
def isPlain (c : Char) : Bool :=
  c.isAlphanum || c == '-' || c == '.' || c == '_' || c == '~'

def percent (b : UInt8) : List Char := '%' :: hex 2 b.toNat

def encodeChar (c : Char) : List Char :=
  if isPlain c then [c] else (String.utf8EncodeChar c).flatMap percent

def encode (cs : List Char) : List Char := cs.flatMap encodeChar

def renderPair (p : String × String) : List Char :=
  encode p.1.toList ++ '=' :: encode p.2.toList

def render : List (String × String) → List Char
  | [] => []
  | [p] => renderPair p
  | p :: ps => renderPair p ++ '&' :: render ps

end CriteriaSearch.Form
