import CriteriaSearch.Text.Blank
import CriteriaSearch.Text.Case
import CriteriaSearch.Text.Emoji.Names

/-!
# Emoji by name

A text can ask for an emoji by a name between two colons. A name of no emoji, colons included,
stays as it is.
-/

namespace CriteriaSearch.Text.Emoji

/-- What a name stands for in a table. -/
def lookup (table : List String) (name : List Char) : Option (List Char) :=
  table.findSome? fun line => (words line.toList).findSome? fun entry =>
    match splitAt '=' entry with
    | [key, value] => if key = name then some value else none
    | _ => none

/-- The beginning of a text that ends in `tail`. -/
def beforeSuffix? (tail cs : List Char) : Option (List Char) :=
  (afterPrefix? tail.reverse cs.reverse).map List.reverse

/-- The tones of skin, each with the end of a name that asks for it. -/
def tones : List (String × Char) :=
  [("_light_skin_tone", '🏻'), ("_medium-light_skin_tone", '🏼'), ("_medium_skin_tone", '🏽'),
    ("_medium-dark_skin_tone", '🏾'), ("_dark_skin_tone", '🏿')]

/-- An emoji in a tone of skin: the tone follows the first character, where it takes the place of
the mark for a coloured form. -/
def inTone (tone : Char) : List Char → List Char
  | c :: '\ufe0f' :: cs => c :: tone :: cs
  | c :: cs => c :: tone :: cs
  | [] => []

/-- An emoji of a hand or a person, in a tone of skin if the name asks for one. -/
def toned? (name : List Char) : Option (List Char) :=
  (lookup toned name).or <| tones.findSome? fun (ending, tone) =>
    ((beforeSuffix? ending.toList name).bind (lookup toned)).map (inTone tone)

/-- The flag of a code. The two capital letters of a country become regional indicators; the small
letters of a part of a country become tags of a black flag. -/
def flag (code : List Char) : List Char :=
  if code.all Char.isUpper then code.map fun c => Char.ofNat (0x1F1E6 + (c.toNat - 'A'.toNat))
  else '🏴' :: code.map (fun c => Char.ofNat (0xE0000 + c.toNat)) ++ [Char.ofNat 0xE007F]

def flag? (name : List Char) : Option (List Char) :=
  let country := (afterPrefix? "flag_for_".toList name).getD name
  ((lookup countries country).or (lookup flags name)).map flag

/-- The emoji of a name, in which case is ignored. -/
def named? (name : List Char) : Option (List Char) :=
  let name := name.map lowerLatin
  (lookup plain name).or <| (toned? name).or (flag? name)

/-- The endings of a name that ask for a form, with the mark of the form. -/
def forms : List (String × Char) := [("-emoji", '\ufe0f'), ("-text", '\ufe0e')]

/-- The emoji that the text between two colons asks for. -/
def requested? (code : List Char) : Option (List Char) :=
  let form := forms.findSome? fun (ending, mark) =>
    (beforeSuffix? ending.toList code).map fun name => (named? name).map (· ++ [mark])
  form.getD (named? code)

/-- The pieces of a text that colons separate, put together again with a colon before each piece. A
piece without blanks and with a colon on either side is an emoji if it is the name of one, and
leaves its second colon to no other name in either case. -/
def joinPieces : List (List Char) → List Char
  | [] => []
  | [piece] => ':' :: piece
  | code :: piece :: pieces =>
    if code.any isBlank then ':' :: code ++ joinPieces (piece :: pieces)
    else (requested? code).getD (':' :: code ++ [':']) ++ piece ++ joinPieces pieces

/-- A text with emoji in the place of their names. -/
def shown (cs : List Char) : List Char :=
  match splitAt ':' cs with
  | [] => []
  | piece :: pieces => piece ++ joinPieces pieces

end CriteriaSearch.Text.Emoji
