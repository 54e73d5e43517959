import CriteriaSearch.Text.Emoji

/-!
# Marked-up text

A text shown in a console where words in brackets can be tags. It is protected from being read as
tags, but a backslash before a bracket that begins no tag is still taken as protection, names of
emoji are still replaced, and characters that would move the cursor are left out.
-/

namespace CriteriaSearch.Markup

/-- Whether a bracket is followed by a tag and its closing bracket. -/
def beginsTag : List Char → Bool
  | [] => false
  | c :: cs =>
    (('a' ≤ c && c ≤ 'z') || c == '#' || c == '/' || c == '@')
      && (cs.dropWhile fun d => d != '[' && d != ']').head? = some ']'

/-- Put a character in front of the first piece. -/
def extend (c : Char) : List (List Char) → List (List Char)
  | [] => [[c]]
  | piece :: pieces => (c :: piece) :: pieces

/-- The text cut before and after each tag. -/
def pieces (inTag : Bool) : List Char → List (List Char)
  | [] => [[]]
  | c :: cs =>
    if inTag && c = ']' then [c] :: pieces false cs
    else if !inTag && c = '[' && beginsTag cs then [] :: extend c (pieces true cs)
    else extend c (pieces inTag cs)

/-- A piece without the backslashes that stand before a bracket. -/
def withoutEscapes : List Char → List Char
  | '\\' :: '[' :: cs => '[' :: withoutEscapes cs
  | c :: cs => c :: withoutEscapes cs
  | [] => []

/-- The controls that a console obeys instead of showing them: bell, backspace, vertical tab, form
feed and carriage return. -/
def isObeyed (c : Char) : Bool := ['\x07', '\x08', '\x0b', '\x0c', '\r'].contains c

/-- One backslash alone at the end is doubled. -/
def afterBackslash (s : String) : List Char :=
  match s.toList.reverse with
  | '\\' :: '\\' :: _ => []
  | '\\' :: _ => ['\\']
  | _ => []

/-- A text as the console shows it. -/
def shown (s : String) : String :=
  let text := (pieces false s.toList).flatMap fun piece => Text.Emoji.shown (withoutEscapes piece)
  String.ofList ((text ++ afterBackslash s).filter fun c => !isObeyed c)

end CriteriaSearch.Markup
