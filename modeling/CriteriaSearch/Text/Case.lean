/-!
# Letter case

Lower case for comparing text with ASCII words. Other letters stay as they are: none of them turns
into an ASCII letter that such a word contains, the Kelvin sign apart.
-/

namespace CriteriaSearch.Text

def lower (cs : List Char) : List Char := cs.map Char.toLower

/-- Equality of texts up to the case of ASCII letters, for a word already in lower case. -/
def isWord (word : String) (cs : List Char) : Bool := lower cs == word.toList

/-- The ASCII letter that a character stands for when case is ignored: its lower case, and for the
four letters outside ASCII that fold into it (capital dotted I, dotless i, long s, Kelvin sign) the
letter they fold to. -/
def folded (c : Char) : Char :=
  if c = '\u0130' || c = '\u0131' then 'i'
  else if c = '\u017F' then 's'
  else if c = '\u212A' then 'k'
  else c.toLower

/-- Lower case that keeps the letters which are not ASCII, where the capital dotted I becomes an i
and a combining dot, and the Kelvin sign a k. -/
def lowerLetters (cs : List Char) : List Char :=
  cs.flatMap fun c =>
    if c = '\u0130' then ['i', '\u0307'] else if c = '\u212A' then ['k'] else [c.toLower]

/-- Lower case of the letters of western languages, the Kelvin sign and the Ångström sign among
them. -/
def lowerLatin (c : Char) : Char :=
  if '\u00C0' ≤ c && c ≤ '\u00DE' && c != '\u00D7' then Char.ofNat (c.toNat + 0x20)
  else if c = '\u212A' then 'k'
  else if c = '\u212B' then '\u00E5'
  else c.toLower

end CriteriaSearch.Text
