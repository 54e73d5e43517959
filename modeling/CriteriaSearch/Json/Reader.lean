import CriteriaSearch.Failure
import CriteriaSearch.Number.Numeral
import CriteriaSearch.Text.Encoding
import CriteriaSearch.Value

/-!
# Reading JSON

JSON documents as values. Numerals with a point or an exponent are binary numbers, the others
integers; `NaN`, `Infinity` and `-Infinity` are numbers too. Of equal keys the last value counts, in
the place of the first. There is room for a number of lists and records inside each other, and a
document with more of them is not read on.
-/

namespace CriteriaSearch.Json

open Text

/-- Why a document cannot be read. -/
inductive ReadError where
  | malformed
  | numeralTooLong
  | undecodable
  | tooDeep (nesting : Nesting)
deriving DecidableEq, Repr

def isSpace (c : Char) : Bool := c == ' ' || c == '\t' || c == '\n' || c == '\r'

def skipSpace (cs : List Char) : List Char := cs.dropWhile isSpace

def hex4? (a b c d : Char) : Option Nat := do
  return ((← hexValue? a) * 16 + (← hexValue? b)) * 256 + (← hexValue? c) * 16 + (← hexValue? d)

/-- The character of an escape of one letter. -/
def simpleEscape? : Char → Option Char
  | '"' => some '"'
  | '\\' => some '\\'
  | '/' => some '/'
  | 'b' => some '\x08'
  | 'f' => some '\x0c'
  | 'n' => some '\n'
  | 'r' => some '\r'
  | 't' => some '\t'
  | _ => none

/-- A numbered escape: two surrogates make one character, and one alone makes none. -/
def numbered (code : Nat) (rest : List Char) : Char × List Char :=
  if Encoding.isHighSurrogate code then
    match rest with
    | '\\' :: 'u' :: a :: b :: c :: d :: more =>
      match hex4? a b c d with
      | some low =>
        if Encoding.isLowSurrogate low then (Encoding.ofSurrogates code low, more)
        else ('\uFFFD', rest)
      | none => ('\uFFFD', rest)
    | _ => ('\uFFFD', rest)
  else if Encoding.isLowSurrogate code then ('\uFFFD', rest)
  else (Char.ofNat code, rest)

/-- The rest of a text after its opening quote, `seen` being what was read, last character first. -/
def text (seen : List Char) : Nat → List Char → Except ReadError (String × List Char)
  | 0, _ => .error .malformed
  | _ + 1, [] => .error .malformed
  | _ + 1, '"' :: cs => .ok (String.ofList seen.reverse, cs)
  | fuel + 1, '\\' :: 'u' :: a :: b :: c :: d :: cs =>
    match hex4? a b c d with
    | none => .error .malformed
    | some code =>
      let (ch, rest) := numbered code cs
      text (ch :: seen) fuel rest
  | fuel + 1, '\\' :: e :: cs =>
    match simpleEscape? e with
    | some ch => text (ch :: seen) fuel cs
    | none => .error .malformed
  | fuel + 1, c :: cs =>
    if c == '\\' || c.toNat < 0x20 then .error .malformed else text (c :: seen) fuel cs

def spanDigits (cs : List Char) : List Char × List Char :=
  (cs.takeWhile Char.isDigit, cs.dropWhile Char.isDigit)

/-- A point and digits, if both are there. -/
def fraction : List Char → List Char × List Char
  | '.' :: cs =>
    match spanDigits cs with
    | ([], _) => ([], '.' :: cs)
    | part => part
  | cs => ([], cs)

/-- An exponent mark, a sign and digits, if there are digits. -/
def exponent (cs : List Char) : Option Int × List Char :=
  match cs with
  | c :: rest =>
    if c == 'e' || c == 'E' then
      let (negative, rest) := Numeral.sign rest
      match spanDigits rest with
      | ([], _) => (none, cs)
      | (ds, more) => (some (Numeral.signed negative (positional (ds.filterMap digit?))), more)
    else (none, cs)
  | [] => (none, cs)

/-- A numeral after its sign. The whole part is zero or begins with another digit. -/
def number (negative : Bool) (cs : List Char) : Except ReadError (Value × List Char) :=
  let (whole, rest) := match cs with
    | '0' :: rest => (['0'], rest)
    | cs => spanDigits cs
  if whole.isEmpty then .error .malformed
  else
    let (places, rest) := fraction rest
    let (power, rest) := exponent rest
    let digits := (whole ++ places).filterMap digit?
    if places.isEmpty && power.isNone then
      if digits.length ≤ Numeral.maxDigits then
        .ok (.int (Numeral.signed negative (positional digits)), rest)
      else .error .numeralTooLong
    else
      .ok (.float (Binary64.ofDecimal negative (positional digits) (power.getD 0 - places.length)),
        rest)

/-- A word that stands for a value. -/
def constant? (cs : List Char) : Option (Value × List Char) :=
  let constants : List (String × Value) :=
    [("null", .null), ("true", .bool true), ("false", .bool false), ("NaN", .float .nan),
      ("Infinity", .float (.infinity false)), ("-Infinity", .float (.infinity true))]
  constants.findSome? fun (word, v) => (afterPrefix? word.toList cs).map fun rest => (v, rest)

mutual

/-- A value, without the white space before it. -/
def value : Nat → Nat → List Char → Except ReadError (Value × List Char)
  | 0, _, _ => .error .malformed
  | fuel + 1, room, cs =>
    match cs with
    | '"' :: rest => do
      let (s, rest) ← text [] (rest.length + 1) rest
      return (.text s, rest)
    | '[' :: rest =>
      match room with
      | 0 => .error (.tooDeep .arrays)
      | room + 1 =>
        match skipSpace rest with
        | ']' :: rest => .ok (.list [], rest)
        | rest => do
          let (items, rest) ← items [] fuel room rest
          return (.list items, rest)
    | '\x7b' :: rest =>
      match room with
      | 0 => .error (.tooDeep .objects)
      | room + 1 =>
        match skipSpace rest with
        | '\x7d' :: rest => .ok (.record [], rest)
        | rest => do
          let (fields, rest) ← fields [] fuel room rest
          return (.record fields, rest)
    | cs =>
      match constant? cs with
      | some found => .ok found
      | none =>
        match cs with
        | '-' :: rest => number true rest
        | cs => number false cs

/-- The items of a list from the next one on, `seen` being those before it, last one first. -/
def items (seen : List Value) : Nat → Nat → List Char → Except ReadError (List Value × List Char)
  | 0, _, _ => .error .malformed
  | fuel + 1, room, cs => do
    let (v, rest) ← value fuel room cs
    match skipSpace rest with
    | ',' :: rest => items (v :: seen) fuel room (skipSpace rest)
    | ']' :: rest => return ((v :: seen).reverse, rest)
    | _ => .error .malformed

/-- The fields of a record from the next key on, `row` holding those before it. -/
def fields (row : Row) : Nat → Nat → List Char → Except ReadError (Row × List Char)
  | 0, _, _ => .error .malformed
  | fuel + 1, room, cs =>
    match cs with
    | '"' :: rest => do
      let (name, rest) ← text [] (rest.length + 1) rest
      match skipSpace rest with
      | ':' :: rest =>
        let (v, rest) ← value fuel room (skipSpace rest)
        match skipSpace rest with
        | ',' :: rest => fields (Named.set row name v) fuel room (skipSpace rest)
        | '\x7d' :: rest => return (Named.set row name v, rest)
        | _ => .error .malformed
      | _ => .error .malformed
    | _ => .error .malformed

end

/-- A whole document. Opening a list takes two steps, one for the list and one for its items. -/
def document (room : Nat) (cs : List Char) : Except ReadError Value := do
  let (v, rest) ← value (2 * cs.length + 1) room (skipSpace cs)
  if (skipSpace rest).isEmpty then return v else .error .malformed

def ofBytes (room : Nat) (bytes : List UInt8) : Except ReadError Value :=
  match Encoding.strict (Encoding.detect bytes) with
  | some cs => document room cs
  | none => .error .undecodable

end CriteriaSearch.Json
