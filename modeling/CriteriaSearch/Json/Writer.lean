import CriteriaSearch.Number.Binary64.Shortest
import CriteriaSearch.Text.Blank
import CriteriaSearch.Text.Quoted
import CriteriaSearch.Value.Text

/-!
# Writing JSON

Values as indented JSON in ASCII. Decimals, dates and times are written as their text.
-/

namespace CriteriaSearch.Json

def unit (n : Nat) : List Char := '\\' :: 'u' :: Text.hex 4 n

/-- A character inside a JSON text. Characters that ASCII cannot show are numbered, those above the
basic plane by two surrogates. -/
def escaped (c : Char) : List Char :=
  if c = '"' || c = '\\' then ['\\', c]
  else if c = '\n' then ['\\', 'n']
  else if c = '\r' then ['\\', 'r']
  else if c = '\t' then ['\\', 't']
  else if c = '\x08' then ['\\', 'b']
  else if c = '\x0c' then ['\\', 'f']
  else if 0x20 ≤ c.toNat ∧ c.toNat < 0x7F then [c]
  else if c.toNat < 0x10000 then unit c.toNat
  else
    let n := c.toNat - 0x10000
    unit (0xD800 + n / 0x400) ++ unit (0xDC00 + n % 0x400)

def quoted (s : String) : String :=
  String.ofList ('"' :: s.toList.flatMap escaped ++ ['"'])

def numeral : Binary64 → String
  | .nan => "NaN"
  | .infinity false => "Infinity"
  | .infinity true => "-Infinity"
  | x => x.text

def newline (depth : Nat) : String := "\n" ++ String.ofList (List.replicate (2 * depth) ' ')

/-- Parts on lines of their own between two brackets. -/
def block (openBracket closeBracket : String) (depth : Nat) (parts : List String) : String :=
  if parts.isEmpty then openBracket ++ closeBracket
  else
    openBracket ++ newline (depth + 1) ++ Text.joinWith ("," ++ newline (depth + 1)) parts
      ++ newline depth ++ closeBracket

mutual

def indented (depth : Nat) : Value → String
  | .null => "null"
  | .bool true => "true"
  | .bool false => "false"
  | .int n => Numeral.text n
  | .float x => numeral x
  | .text s => quoted s
  | .tuple items => block "[" "]" depth (indentedAll (depth + 1) items)
  | .list items => block "[" "]" depth (indentedAll (depth + 1) items)
  | .record fields => block "\x7b" "\x7d" depth (indentedFields (depth + 1) fields)
  | v => quoted v.toText

def indentedAll (depth : Nat) : List Value → List String
  | [] => []
  | v :: vs => indented depth v :: indentedAll depth vs

def indentedFields (depth : Nat) : List (String × Value) → List String
  | [] => []
  | (name, v) :: fields => (quoted name ++ ": " ++ indented depth v) :: indentedFields depth fields

end

/-- A value as an indented document. -/
def render (v : Value) : String := indented 0 v

end CriteriaSearch.Json
