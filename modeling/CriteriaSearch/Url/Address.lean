import CriteriaSearch.Text.Blank
import CriteriaSearch.Text.Digit

/-!
# Numeric addresses

Addresses of version 4 in four decimal parts, of version 6 in hexadecimal parts of which one run of
zeros may be left out, and of later versions, as they stand between brackets in a URL.
-/

namespace CriteriaSearch.Address

open Text

/-- A decimal part of up to 255, without zeros in front. -/
def isOctet (cs : List Char) : Bool :=
  match cs.mapM asciiDigit? with
  | some digits =>
    !cs.isEmpty && cs.length ≤ 3 && positional digits ≤ 255
      && (cs.length == 1 || cs.head? != some '0')
  | none => false

def isVersion4 (cs : List Char) : Bool :=
  let octets := splitAt '.' cs
  octets.length == 4 && octets.all isOctet

/-- One to four hexadecimal digits. -/
def isHextet (cs : List Char) : Bool :=
  !cs.isEmpty && cs.length ≤ 4 && cs.all fun c => (hexValue? c).isSome

/-- The parts between colons; an address of version 4 at the end counts as two. -/
def version6Parts? (cs : List Char) : Option (List (List Char)) :=
  let parts := splitAt ':' cs
  match parts.getLast? with
  | some last =>
    if last.contains '.' then
      if isVersion4 last then some (parts.dropLast ++ [['0'], ['0']]) else none
    else some parts
  | none => none

/-- The parts before and after a gap of zeros: hexadecimal, or none at all next to an end. -/
def isSide (parts : List (List Char)) : Bool := parts == [[]] || parts.all isHextet

/-- The number of parts on one side of a gap. -/
def sideLength (parts : List (List Char)) : Nat := if parts == [[]] then 0 else parts.length

/-- Eight parts, or fewer around one gap inside. -/
def isVersion6 (cs : List Char) : Bool :=
  match version6Parts? (cs.takeWhile (· != '%')) with
  | none => false
  | some parts =>
    let hasGap := ((parts.drop 1).dropLast).any (·.isEmpty)
    3 ≤ (splitAt ':' (cs.takeWhile (· != '%'))).length
      && (match cs.dropWhile (· != '%') with
        | [] => true
        | _ :: zone => !zone.isEmpty && !zone.contains '%')
      && (if hasGap then
          let high := parts.take 1 ++ (parts.drop 1).takeWhile (!·.isEmpty)
          let low := parts.drop (high.length + 1)
          isSide high && isSide low && sideLength high + sideLength low ≤ 7
        else parts.length == 8 && parts.all isHextet)

/-- A version in hexadecimal after a `v`, a point, and an address. -/
def isLaterVersion (cs : List Char) : Bool :=
  match cs with
  | 'v' :: cs =>
    let isHex := fun c => (hexValue? c).isSome
    match cs.takeWhile isHex, cs.dropWhile isHex with
    | _ :: _, '.' :: _ :: _ => true
    | _, _ => false
  | _ => false

end CriteriaSearch.Address
