import CriteriaSearch.Criteria
import CriteriaSearch.Text.Case

/-!
# Conditions as written

Three forms: a sort order, a field with a list of operands, and a field with a symbol and one
operand. They are tried in this order.
-/

namespace CriteriaSearch.Filter

open Text

inductive Condition where
  | sort (field direction : List Char)
  | list (field keyword operands : List Char)
  | symbol (field : List Char) (sign : String) (operator : Operator) (operand : List Char)
deriving DecidableEq, Repr

namespace Condition

def isFieldStart (c : Char) : Bool := c.isAlpha || c == '_'

def isFieldChar (c : Char) : Bool := c.isAlphanum || c == '_'

/-- An ASCII letter or underscore, followed by letters, digits and underscores. -/
def isField : List Char → Bool
  | [] => false
  | c :: cs => isFieldStart c && cs.all isFieldChar

/-- A field up to case folding. -/
def isFoldedField (cs : List Char) : Bool := isField (cs.map folded)

def isFoldedWord (word : String) (cs : List Char) : Bool := cs.map folded == word.toList

/-- A first word and what follows the blanks after it. -/
def nextWord (cs : List Char) : List Char × List Char :=
  (cs.takeWhile (!isBlank ·), (cs.dropWhile (!isBlank ·)).dropWhile isBlank)

/-- What follows as an operand: something on one line. -/
def operand? (cs : List Char) : Option (List Char) :=
  let cs := cs.dropWhile isBlank
  if cs.isEmpty || cs.contains '\n' then none else some cs

/-! ### Sort orders -/

def directions : List String := ["asc", "desc", "ascending", "descending"]

/-- The word `sort`, a field, and a direction, which may be missing. -/
def sort? (cs : List Char) : Option Condition :=
  match words cs with
  | [word, field] =>
    if isFoldedWord "sort" word && isFoldedField field then some (.sort field "asc".toList)
    else none
  | [word, field, direction] =>
    if isFoldedWord "sort" word && isFoldedField field
        && directions.any (isFoldedWord · direction) then
      some (.sort field direction)
    else none
  | _ => none

/-! ### Lists -/

/-- The keyword of a list and the operands after it. -/
def keyword? (cs : List Char) : Option (List Char × List Char) :=
  let (word, rest) := nextWord cs
  if ["in", "between", "within"].any (isFoldedWord · word) then
    (operand? rest).map fun operands => (word, operands)
  else if isFoldedWord "not" word then
    let (second, rest) := nextWord rest
    if ["in", "between"].any (isFoldedWord · second) then
      (operand? rest).map fun operands => (word ++ ' ' :: second, operands)
    else none
  else none

def list? (cs : List Char) : Option Condition :=
  let (field, rest) := nextWord cs
  if isFoldedField field then
    (keyword? rest).map fun (keyword, operands) => .list field keyword operands
  else none

/-! ### Symbols -/

/-- Every symbol with its operator. Of two symbols that begin alike the longer one is first. -/
def symbols : List (String × Operator) :=
  [("<=", .lessEqual), (">=", .greaterEqual), ("!=", .notEqual), ("!~", .notContains),
    ("^=", .startsWith), ("$=", .endsWith), ("=", .equal), ("<", .less), (">", .greater),
    ("~", .contains), (":", .equal)]

def symbol? (cs : List Char) : Option Condition :=
  let field := cs.takeWhile isFieldChar
  if isField field then
    let rest := (cs.dropWhile isFieldChar).dropWhile isBlank
    symbols.findSome? fun (sign, operator) => do
      let operand ← operand? (← afterPrefix? sign.toList rest)
      return .symbol field sign operator operand
  else none

/-- The condition that a text without blanks around it states. -/
def ofText? (cs : List Char) : Option Condition :=
  sort? cs <|> list? cs <|> symbol? cs

end Condition

end CriteriaSearch.Filter
