import CriteriaSearch.Failure
import CriteriaSearch.Text.Case

/-!
# Expansions

Which side of the hierarchy is to be filled in, and the window of the children fetched for each
parent: a mode, optionally with a limit, or an offset and a limit, in parentheses.
-/

namespace CriteriaSearch

namespace Expansion

inductive Mode where
  | none
  | parent
  | child
  | both
  | other (name : String)
deriving DecidableEq, Repr

namespace Mode

def known : List Mode := [.none, .parent, .child, .both]

def name : Mode → String
  | .none => "none"
  | .parent => "parent"
  | .child => "child"
  | .both => "both"
  | .other name => name

def ofName (name : String) : Mode := (known.find? (·.name == name)).getD (.other name)

/-- The mode that a text names: `both` and `child` by their beginning, `parent` as a whole. -/
def ofText (cs : List Char) : Mode :=
  let word := Text.lower cs
  if "both".toList.isPrefixOf word then .both
  else if "child".toList.isPrefixOf word then .child
  else if word = "parent".toList then .parent
  else .none

end Mode

end Expansion

/-- A mode and the window of the children of each parent. -/
structure Expansion where
  mode : Expansion.Mode := .none
  offset : Int := 0
  limit : Int := 5
deriving DecidableEq, Repr

namespace Expansion

open Text

def includesParents (e : Expansion) : Bool := e.mode = .parent ∨ e.mode = .both

def includesChildren (e : Expansion) : Bool := e.mode = .child ∨ e.mode = .both

/-- The number of a token of ASCII digits, else a default. -/
def count (token : List Char) (default : Int) : Except Failure Int :=
  if token.isEmpty || !token.all Char.isDigit then .ok default
  else match Numeral.int? token with
    | some n => .ok n
    | none => .error (.numeralTooLong token.length)

/-- What precedes the last occurrence of a character. -/
def beforeLast? (c : Char) (cs : List Char) : Option (List Char) :=
  match cs.reverse.dropWhile (· != c) with
  | [] => none
  | _ :: front => some front.reverse

/-- What stands between the last opening and the last closing parenthesis, if both are there. -/
def windowText? (cs : List Char) : Option (List Char) := do
  let start ← beforeLast? '(' cs
  let stop ← beforeLast? ')' cs
  return stop.drop (start.length + 1)

/-- The expansion that a text asks for. Tokens of the window that are no numerals stand for its
defaults. -/
def ofText (s : String) : Except Failure Expansion := do
  let cs := trim s.toList
  let mode := Mode.ofText cs
  let defaults : Expansion := { mode }
  match windowText? cs with
  | none => return defaults
  | some inner =>
    match splitAt ',' inner with
    | first :: second :: _ =>
      let offset ← count (trim first) defaults.offset
      let limit ← count (trim second) defaults.limit
      return { mode, offset, limit }
    | _ => return { defaults with limit := ← count (trim inner) defaults.limit }

end Expansion

end CriteriaSearch
