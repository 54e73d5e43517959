import CriteriaSearch.Failure
import CriteriaSearch.Text.Case
import CriteriaSearch.Url.Address

/-!
# Request URLs

The scheme, the host, the path and the query part of a URL. Blanks in front of it and line
breaks and tabs in it do not count, and its fragment is cut off.
-/

namespace CriteriaSearch

structure Url where
  scheme : String
  host : String
  path : String
  query : String
deriving DecidableEq, Repr

namespace Url

/-- Blanks and controls, which do not count in front of a URL. -/
def isLeading (c : Char) : Bool := c.toNat ≤ 32

def isRemoved (c : Char) : Bool := c == '\t' || c == '\n' || c == '\r'

def isSchemeChar (c : Char) : Bool := c.isAlphanum || c == '+' || c == '-' || c == '.'

/-- The scheme, which begins with a letter and ends at a colon, and what follows the colon. Without
a scheme all of the text follows. -/
def splitScheme (cs : List Char) : List Char × List Char :=
  if cs.head?.any Char.isAlpha then
    match cs.dropWhile isSchemeChar with
    | ':' :: rest => (cs.takeWhile isSchemeChar, rest)
    | _ => ([], cs)
  else ([], cs)

def endsHost (c : Char) : Bool := c == '/' || c == '?' || c == '#'

/-- The host after two slashes, and what follows it. -/
def splitHost : List Char → List Char × List Char
  | '/' :: '/' :: cs => (cs.takeWhile (!endsHost ·), cs.dropWhile (!endsHost ·))
  | cs => ([], cs)

def pathPart (cs : List Char) : List Char := cs.takeWhile fun c => c != '?' && c != '#'

/-- What stands after the first question mark and before the first number sign. -/
def queryPart (cs : List Char) : List Char :=
  ((cs.takeWhile (· != '#')).dropWhile (· != '?')).drop 1

/-- Characters with a compatibility form that contains one of the separators `/`, `?`, `#`, `@` and
`:`. -/
def disguised : List Nat :=
  [0x2047, 0x2048, 0x2049, 0x2100, 0x2101, 0x2105, 0x2106, 0x2A74, 0xFE13, 0xFE16, 0xFE55, 0xFE56,
    0xFE5F, 0xFE6B, 0xFF03, 0xFF0F, 0xFF1A, 0xFF1F, 0xFF20]

/-- What may stand between brackets. -/
def checkAddress (host : List Char) : Except UrlError Unit :=
  if host.head? = some 'v' then
    if Address.isLaterVersion host then .ok () else .error .badLaterVersion
  else if Address.isVersion4 host then .error .version4InBrackets
  else if Address.isVersion6 host then .ok ()
  else .error (.notAnAddress (String.ofList host))

/-- Brackets of a host hold an address, and nothing follows them but a colon with a number. -/
def checkBrackets (host : List Char) : Except UrlError Unit :=
  let named := (host.reverse.takeWhile (· != '@')).reverse
  match named.takeWhile (· != '['), named.dropWhile (· != '[') with
  | [], _ :: inside =>
    match (inside.dropWhile (· != ']')).drop 1 with
    | [] => checkAddress (inside.takeWhile (· != ']'))
    | ':' :: _ => checkAddress (inside.takeWhile (· != ']'))
    | _ => .error .misplacedBracket
  | _ :: _, _ :: _ => .error .misplacedBracket
  | name, [] => checkAddress (name.takeWhile (· != ':'))

def checkHost (host : List Char) : Except UrlError Unit := do
  if host.contains '[' != host.contains ']' then .error .misplacedBracket
  else
    if host.contains '[' then checkBrackets host
    if host.any fun c => disguised.contains c.toNat then
      .error (.unsafeHost (String.ofList host))

/-- The parts of a text that has a scheme and a host. -/
def ofText (s : String) : Except UrlError Url := do
  let (scheme, rest) := splitScheme ((s.toList.dropWhile isLeading).filter (!isRemoved ·))
  let (host, rest) := splitHost rest
  checkHost host
  if scheme.isEmpty || host.isEmpty then .error .noSchemeOrHost
  else
    return ⟨String.ofList (Text.lower scheme), String.ofList host,
      String.ofList (pathPart rest), String.ofList (queryPart rest)⟩

end Url

end CriteriaSearch
