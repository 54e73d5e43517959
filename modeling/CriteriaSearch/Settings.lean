import CriteriaSearch.Failure
import CriteriaSearch.Number.Binary64.Reader
import CriteriaSearch.Text.Uppercase

/-!
# Settings

Where requests go and what they carry by default. A setting comes from an explicit argument, else
from a variable of the environment, else from its default; empty arguments and variables count as
absent.
-/

namespace CriteriaSearch

structure Settings where
  url : String := "http://localhost:8983/solr"
  collection : String := "collection1"
  requestHandler : String := "/select"
  requestMethod : String := "GET"
  echoParams : Option String := none
  timeout : Value := .float (Binary64.ofRatio false 30 1)

/-- Explicit arguments for settings. -/
structure SettingsArgs where
  url : Option String := none
  collection : Option String := none
  requestHandler : Option String := none
  requestMethod : Option String := none
  echoParams : Option String := none
  timeout : Value := .null

/-- Variables of the environment with their values. -/
abbrev Environment := Named String

namespace Settings

/-- The base address and the collection with one slash between them. -/
def collectionUrl (s : Settings) : String :=
  let base := (s.url.toList.reverse.dropWhile (· == '/')).reverse
  String.ofList (base ++ '/' :: Text.trimBy (· == '/') s.collection.toList)

/-- The address to which requests for an endpoint go. -/
def requestUrl (s : Settings) (endpoint : String) : String := s.collectionUrl ++ endpoint

def urlVariable : String := "SOLR_BRIDGE_URL"

def collectionVariable : String := "SOLR_BRIDGE_COLLECTION"

def handlerVariable : String := "SOLR_BRIDGE_REQUEST_HANDLER"

def methodVariable : String := "SOLR_BRIDGE_REQUEST_METHOD"

def echoVariable : String := "SOLR_BRIDGE_ECHO_PARAMS"

/-- A text that is there and not empty. -/
def given (s : Option String) : Option String := s.filter (· != "")

/-- The first of an argument and a variable that is given. -/
def choose (env : Environment) (arg : Option String) (variableName : String) : Option String :=
  given arg <|> given (env.get? variableName)

def resolveTimeout (env : Environment) (arg : Value) : Except Failure Value :=
  if !arg.isNull then .ok arg
  else match given (env.get? Failure.timeoutVariable) with
    | none => .ok ({} : Settings).timeout
    | some s =>
      match Binary64.ofText? s.toList with
      | some x => .ok (.float x)
      | none => .error (.timeout s)

def resolve (env : Environment) (args : SettingsArgs := {}) : Except Failure Settings := do
  let timeout ← resolveTimeout env args.timeout
  let defaults : Settings := {}
  return {
    url := (choose env args.url urlVariable).getD defaults.url
    collection := (choose env args.collection collectionVariable).getD defaults.collection
    requestHandler :=
      (choose env args.requestHandler handlerVariable).getD defaults.requestHandler
    requestMethod :=
      Text.upper ((choose env args.requestMethod methodVariable).getD defaults.requestMethod)
    echoParams := choose env args.echoParams echoVariable
    timeout }

end Settings

end CriteriaSearch
