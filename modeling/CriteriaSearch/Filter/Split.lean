import CriteriaSearch.Criteria
import CriteriaSearch.Text.Case

/-!
# Parts of a filter text

A filter text is a row of conditions. Outside quotes and brackets a comma or one of the words `and`
and `or` between blanks ends a condition; each condition keeps the conjunction that joins it to the
one before.
-/

namespace CriteriaSearch.Filter

open Text

inductive Token where
  | char (c : Char)
  | join (how : Conjunction)
deriving DecidableEq, Repr

/-- Where a scan stands: the open quote, the bracket depth, the character before, and how many
characters of a connector are still to be skipped. -/
structure Position where
  quote : Option Char := none
  depth : Nat := 0
  before : Option Char := none
  skip : Nat := 0
deriving DecidableEq, Repr

def isQuote (c : Char) : Bool := c == '\'' || c == '"'

def isOpening (c : Char) : Bool := c == '(' || c == '['

def isClosing (c : Char) : Bool := c == ')' || c == ']'

/-- Whether `cs` begins with a word and a blank, or is the word. -/
def beginsWithWord (word : String) (cs : List Char) : Bool :=
  isWord word (cs.take word.length) && (cs[word.length]?).all isBlank

/-- The connector at the front of `cs`, and its width. -/
def connector? (before : Option Char) (cs : List Char) : Option (Conjunction × Nat) :=
  if cs.head? = some ',' then some (.and, 1)
  else if !before.all isBlank then none
  else if beginsWithWord "and" cs then some (.and, 3)
  else if beginsWithWord "or" cs then some (.or, 2)
  else none

/-- The position after a character that is not part of a connector. -/
def Position.pass (p : Position) (c : Char) : Position :=
  match p.quote with
  | some q => { p with quote := if c = q then none else some q, before := some c }
  | none =>
    if isQuote c then { p with quote := some c, before := some c }
    else if isOpening c then { p with depth := p.depth + 1, before := some c }
    else if isClosing c then { p with depth := p.depth - 1, before := some c }
    else { p with before := some c }

/-- The connector at a position; there is none inside quotes and brackets. -/
def Position.connector? (p : Position) (cs : List Char) : Option (Conjunction × Nat) :=
  if p.quote.isNone && p.depth == 0 then Filter.connector? p.before cs else none

def tokens (p : Position) : List Char → List Token
  | [] => []
  | c :: cs =>
    if p.skip ≠ 0 then tokens { p with before := some c, skip := p.skip - 1 } cs
    else
      match p.connector? (c :: cs) with
      | some (how, width) => .join how :: tokens { p with before := some c, skip := width - 1 } cs
      | none => .char c :: tokens (p.pass c) cs

/-- The join of two connectors with nothing between them. -/
def stronger (a b : Conjunction) : Conjunction := if a = .or ∨ b = .or then .or else .and

/-- The conditions of a row of tokens, `pending` being the conjunction of the next one and `seen`
its characters so far, last one first. -/
def conditions (pending : Conjunction) (seen : List Char) :
    List Token → List (Conjunction × List Char)
  | [] =>
    match trim seen.reverse with
    | [] => []
    | text => [(pending, text)]
  | .char c :: ts => conditions pending (c :: seen) ts
  | .join how :: ts =>
    match trim seen.reverse with
    | [] => conditions (stronger pending how) [] ts
    | text => (pending, text) :: conditions how [] ts

/-- The conditions of a filter text, without blanks around them. -/
def split (cs : List Char) : List (Conjunction × List Char) :=
  conditions .and [] (tokens {} cs)

/-- The items of a list, which are separated by commas outside quotes; blanks around them and empty
ones do not count. -/
def items (quote : Option Char) (seen : List Char) : List Char → List (List Char)
  | [] =>
    match trim seen.reverse with
    | [] => []
    | item => [item]
  | c :: cs =>
    match quote with
    | some q => items (if c = q then none else some q) (c :: seen) cs
    | none =>
      if isQuote c then items (some c) (c :: seen) cs
      else if c = ',' then
        match trim seen.reverse with
        | [] => items none [] cs
        | item => item :: items none [] cs
      else items none (c :: seen) cs

end CriteriaSearch.Filter
