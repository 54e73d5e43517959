import CriteriaSearch.Text.Blank
import CriteriaSearch.Text.Quoted
import CriteriaSearch.Value.Number

/-!
# Failures

Everything that can go wrong between a filter text and a page of results, by cause, and the
messages for it.
-/

namespace CriteriaSearch

/-- Why a filter text is refused. `unknownKeyword` and `numeralTooLong` have no message of their
own. -/
inductive FilterError where
  | emptyCondition
  | missingValue
  | invalidField (field : String)
  | unknownField (field : String) (allowed : List String)
  | noValues (keyword condition : String)
  | notTwoValues (keyword condition : String)
  | invalidSyntax (condition : String)
  | notOrdered (symbol condition : String)
  | unknownKeyword
  | numeralTooLong
deriving DecidableEq, Repr

namespace FilterError

def allowedText (allowed : List String) : String :=
  if allowed.isEmpty then "<none>"
  else Text.joinWith ", " (allowed.eraseDups.mergeSort fun a b => decide (a ≤ b))

def message : FilterError → String
  | .emptyCondition => "Empty filter condition."
  | .missingValue => "Missing filter value."
  | .invalidField field => "Invalid field name: " ++ Text.quoted field
  | .unknownField field allowed =>
    "Unknown field " ++ Text.quoted field ++ ". Allowed fields: " ++ allowedText allowed
  | .noValues keyword condition =>
    "`" ++ keyword ++ "` filter has no values: " ++ Text.quoted condition
  | .notTwoValues keyword condition =>
    "`" ++ keyword ++ "` filter needs exactly two values: " ++ Text.quoted condition
  | .invalidSyntax condition => "Invalid filter syntax: " ++ Text.quoted condition
  | .notOrdered symbol condition =>
    "Operator `" ++ symbol ++ "` requires a numeric or date value: " ++ Text.quoted condition
  | .unknownKeyword => ""
  | .numeralTooLong => ""

/-- Whether an error says that a filter text is wrong, and how. -/
def isExplained : FilterError → Bool
  | .unknownKeyword => false
  | .numeralTooLong => false
  | _ => true

end FilterError

/-- Why a text is no request URL. -/
inductive UrlError where
  | noSchemeOrHost
  | misplacedBracket
  | notAnAddress (host : String)
  | version4InBrackets
  | badLaterVersion
  | unsafeHost (host : String)
deriving DecidableEq, Repr

def UrlError.message : UrlError → String
  | .noSchemeOrHost => "URL requires a scheme and a host"
  | .misplacedBracket => "Invalid IPv6 URL"
  | .notAnAddress host => Text.quoted host ++ " does not appear to be an IPv4 or IPv6 address"
  | .version4InBrackets => "An IPv4 address cannot be in brackets"
  | .badLaterVersion => "IPvFuture address is invalid"
  | .unsafeHost host =>
    "netloc '" ++ host ++ "' contains invalid characters under NFKC normalization"

/-- Why criteria cannot be turned into a request. -/
inductive CompileError where
  | badUrl (url : String) (cause : UrlError)
  | notInteger (parameter value : String)
deriving DecidableEq, Repr

def CompileError.message : CompileError → String
  | .badUrl url cause => "Unable to parse request URL " ++ Text.quoted url ++ ": " ++ cause.message
  | .notInteger parameter value =>
    "Request URL parameter " ++ Text.quoted parameter ++ " must be an integer: "
      ++ Text.quoted value

/-- Why an operand has no text in a clause although it can be read. -/
inductive OperandError where
  | numeral (cause : NumeralError)
  | outOfCalendar
deriving DecidableEq, Repr

/-- Why a fetch has no result. -/
inductive ExecutionError where
  | notAnObject
  | queryStatus (status : String)
  | notJson (url : String)
  | requestFailed (cause : String)
  | httpStatus (code : Nat)
  | searchFailed (cause : String)
  | supplementFailed (cause : String)
deriving DecidableEq, Repr

def ExecutionError.message : ExecutionError → String
  | .notAnObject => "Solr response is not a JSON object."
  | .queryStatus status => "Solr query failed with a response code of " ++ status ++ "."
  | .notJson url => "Solr returned a non-JSON response from " ++ url
  | .requestFailed cause => "Solr request failed: " ++ cause
  | .httpStatus code => "Solr request failed: status " ++ toString code
  | .searchFailed cause => "Search request failed: " ++ cause
  | .supplementFailed cause => "Supplemental fetch failed: " ++ cause

/-- What is said of an integer that is too long to be written. -/
def tooLongText : String :=
  "Exceeds the limit (" ++ toString Numeral.maxDigits
    ++ " digits) for integer string conversion; use sys.set_int_max_str_digits() to increase "
    ++ "the limit"

/-- What is said of a numeral that is too long to be read. -/
def tooManyDigitsText (digits : Nat) : String :=
  "Exceeds the limit (" ++ toString Numeral.maxDigits
    ++ " digits) for integer string conversion: value has " ++ toString digits
    ++ " digits; use sys.set_int_max_str_digits() to increase the limit"

def OperandError.message : OperandError → String
  | .numeral .tooLong => tooLongText
  | .numeral .signallingNaN => "[<class 'decimal.InvalidOperation'>]"
  | .numeral .outOfRange => "[<class 'decimal.Overflow'>]"
  | .outOfCalendar => "date value out of range"

/-- Parts of a reply with a shape that cannot be read. Parts of another kind come with its name,
numbers that are no integers with whether they are binary. -/
inductive ReplyError where
  | notARecord (kind : String)
  | notAList (kind : String)
  | notANumber (kind : String)
  | notANumeral (s : String)
  | numeralTooLong (digits : Nat)
  | nan (binary : Bool)
  | infinite (binary : Bool)
  | signallingNaN
deriving DecidableEq, Repr

namespace ReplyError

/-- The greatest length of a text that is repeated in a message, quotes included. -/
def shownLength : Nat := 200

def message : ReplyError → String
  | .notARecord kind => "'" ++ kind ++ "' object has no attribute 'get'"
  | .notAList kind => "'" ++ kind ++ "' object is not iterable"
  | .notANumber kind =>
    "int() argument must be a string, a bytes-like object or a real number, not '" ++ kind ++ "'"
  | .notANumeral s =>
    "invalid literal for int() with base 10: "
      ++ String.ofList ((Text.quotedChars s.toList).take shownLength)
  | .numeralTooLong digits => tooManyDigitsText digits
  | .nan binary => "cannot convert " ++ (if binary then "float NaN" else "NaN") ++ " to integer"
  | .infinite binary =>
    "cannot convert " ++ (if binary then "float infinity" else "Infinity") ++ " to integer"
  | .signallingNaN => "[<class 'decimal.InvalidOperation'>]"

end ReplyError

/-- What can be nested deeper than there is room for: calls, and the arrays and objects of JSON. -/
inductive Nesting where
  | calls
  | arrays
  | objects
deriving DecidableEq, Repr

def Nesting.message : Nesting → String
  | .calls => "maximum recursion depth exceeded"
  | .arrays =>
    "maximum recursion depth exceeded while decoding a JSON array from a unicode string"
  | .objects =>
    "maximum recursion depth exceeded while decoding a JSON object from a unicode string"

/-- Kinds of failure that a source of results reports in its own words. -/
inductive ReportKind where
  | search
  | compile
  | execution
  | filter
  | general
  | value
  | missingKey
  | system
deriving DecidableEq, Repr

inductive Failure where
  | filter (cause : FilterError)
  | compile (cause : CompileError)
  | operand (cause : OperandError)
  | execution (cause : ExecutionError)
  | reply (cause : ReplyError)
  | timeout (setting : String)
  | windowTooLong
  | numeralTooLong (digits : Nat)
  | tooDeep (nesting : Nesting)
  | unreachable (cause : String)
  | reported (kind : ReportKind) (message : String)
deriving DecidableEq, Repr

namespace Failure

def timeoutVariable : String := "SOLR_BRIDGE_TIMEOUT"

/-- Failures of compiling and execution, which pass through a search unchanged. -/
def isSearchFailure : Failure → Bool
  | .compile _ => true
  | .execution _ => true
  | .reported .search _ => true
  | .reported .compile _ => true
  | .reported .execution _ => true
  | _ => false

/-- A filter text that is refused with an explanation. -/
def isFilterRefusal : Failure → Bool
  | .filter cause => cause.isExplained
  | .reported .filter _ => true
  | _ => false

def isCompileError : Failure → Bool
  | .compile _ => true
  | .reported .compile _ => true
  | _ => false

def isExecutionError : Failure → Bool
  | .execution _ => true
  | .reported .execution _ => true
  | _ => false

/-- A key that is missing is its own message, in quotes. -/
def message : Failure → String
  | .filter cause => cause.message
  | .compile cause => cause.message
  | .operand cause => cause.message
  | .execution cause => cause.message
  | .reply cause => cause.message
  | .timeout setting =>
    timeoutVariable ++ " must be a number of seconds, got " ++ Text.quoted setting ++ "."
  | .windowTooLong => tooLongText
  | .numeralTooLong digits => tooManyDigitsText digits
  | .tooDeep nesting => nesting.message
  | .unreachable cause => cause
  | .reported .missingKey message => Text.quoted message
  | .reported _ message => message

end Failure

end CriteriaSearch
