import CriteriaSearch.Search.Source
import CriteriaSearch.Settings

/-!
# HTTP requests

A query is sent to the endpoint of a collection, its parameters behind the address or as a form. The
reply is always asked for as JSON.
-/

namespace CriteriaSearch.Http

/-- Parameters grouped by name, each group at the place of its first member. -/
abbrev Form := Named (List String)

namespace Form

/-- Append a value to the group of a name. -/
def push (form : Form) (name s : String) : Form :=
  form.set name ((form.get? name).getD [] ++ [s])

def ofParams (params : Params) : Form := params.foldl (fun form (name, s) => form.push name s) []

def toParams (form : Form) : Params := form.flatMap fun (name, ss) => ss.map fun s => (name, s)

end Form

/-- The parameters that are sent: those of a query, and the format of the reply. -/
def withFormat (params : Params) : Params := params.filter (·.1 != "wt") ++ [("wt", "json")]

/-- What a client is asked to send: an address with parameters, or a form as the body. -/
inductive Message where
  | get (url : String) (params : Params)
  | post (url : String) (form : Form)
deriving DecidableEq, Repr

namespace Message

def url : Message → String
  | .get url _ => url
  | .post url _ => url

/-- The message for a request. Only one setting asks for a form. -/
def ofRequest (settings : Settings) (r : Request) : Except Failure Message := do
  let query := r.windowed
  let params := withFormat (← query.request)
  let url := settings.requestUrl query.endpoint
  return if settings.requestMethod = "POST" then .post url (.ofParams params) else .get url params

end Message

end CriteriaSearch.Http
