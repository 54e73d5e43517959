import CriteriaSearch.Criteria.Clause
import CriteriaSearch.Query
import CriteriaSearch.Settings
import CriteriaSearch.Url
import CriteriaSearch.Url.Form

/-!
# Queries of criteria

Criteria become a query entry by entry: a condition adds its clause, a sort entry its field, and a
directive changes the rest of the query. A whole URL replaces all that came before it, apart from
the endpoint and the expansion.
-/

namespace CriteriaSearch.Query

/-! ### Queries of URLs -/

/-- A sort parameter: fields separated by commas, each with a direction after a blank. -/
def sortOfParam (s : String) : List (String × Direction) :=
  (Text.splitAt ',' s.toList).filterMap fun item =>
    match Text.words item with
    | [] => none
    | [field] => some (String.ofList field, .asc)
    | field :: direction :: _ => some (String.ofList field, .ofText direction)

/-- The integer of a window parameter. -/
def windowParam (name s : String) : Except CompileError Int :=
  match Numeral.int? s.toList with
  | some n => .ok n
  | none => .error (.notInteger name s)

/-- Take one parameter of a request into a query. -/
def takeParam (q : Query) (p : String × String) : Except CompileError Query :=
  let (name, s) := p
  if name = "q" then .ok { q with query := s }
  else if name = "fq" then .ok { q with filters := q.filters ++ [s] }
  else if name = "sort" then .ok { q with sort := q.sort ++ sortOfParam s }
  else if name = "start" then do return { q with offset := ← windowParam name s }
  else if name = "rows" then do return { q with limit := ← windowParam name s }
  else .ok { q with params := q.params.set name s }

/-- The query that a whole URL asks for. -/
def ofUrl (endpoint url : String) : Except CompileError Query := do
  let parts ← (Url.ofText url).mapError (CompileError.badUrl url)
  (Form.pairs parts.query.toList).foldlM takeParam { endpoint }

/-! ### Endpoints -/

/-- A handler as an endpoint. -/
def endpointOf (handler : String) : String :=
  if handler = "" then "/select"
  else if handler.toList.head? = some '/' then handler else "/" ++ handler

/-- The text of a directive. -/
def directiveText (v : Value) : Except Failure String := (Clause.plainText v).mapError .operand

/-- The first handler entry decides the endpoint, else the settings do. -/
def endpointFor (settings : Settings) (criteria : Criteria) : Except Failure String :=
  match criteria.entries.find? (·.field == Control.handler) with
  | none => .ok (endpointOf settings.requestHandler)
  | some entry =>
    if entry.value.isNull then .ok (endpointOf "")
    else (directiveText entry.value).map endpointOf

/-! ### Entries -/

/-- A name before the first `=` and the text after it. -/
def splitParam? (s : String) : Option (String × String) :=
  let name := Text.trim (s.toList.takeWhile (· != '='))
  match s.toList.dropWhile (· != '=') with
  | [] => none
  | _ :: rest => if name.isEmpty then none else some (String.ofList name, String.ofList rest)

/-- The parameter of an entry: its first two operands, or one operand with a name before `=`. -/
def paramPair (entry : Criterion) : Except Failure (Option (String × String)) :=
  match entry.values with
  | name :: v :: _ => do return some (← directiveText name, ← directiveText v)
  | [v] => if v.isNull then .ok none else (directiveText v).map splitParam?
  | [] => .ok none

/-- The text of a URL entry. -/
def urlText (v : Value) : Except Failure String := if v.isTruthy then directiveText v else .ok ""

/-- Follow the directive of an entry on a control field. -/
def applyControl (q : Query) (entry : Criterion) : Except Failure Query :=
  let v := entry.value
  if entry.field = Control.query then
    if v.isNull then .ok q else do return { q with query := ← directiveText v }
  else if entry.field = Control.url then do
    let made ← (ofUrl q.endpoint (← urlText v)).mapError Failure.compile
    return { made with expansion := q.expansion }
  else if entry.field = Control.param then do
    match ← paramPair entry with
    | some (name, s) => return { q with params := q.params.set name s }
    | none => return q
  else if entry.field = Control.expand then
    if v.isNull then .ok q else do return { q with expansion := some (← directiveText v) }
  else .ok q

/-- Take one entry into a query. -/
def takeEntry (q : Query) (entry : Criterion) : Except Failure Query :=
  if entry.isControl then q.applyControl entry
  else if entry.operator = .sort then
    .ok { q with sort := q.sort ++ [(entry.field, .ofValue entry.value)] }
  else do
    match ← entry.clause?.mapError Failure.operand with
    | none => return q
    | some clause => return { q with filters := q.filters ++ [clause] }

/-- The query before the first entry. -/
def start (criteria : Criteria) (endpoint : String) : Query :=
  let q : Query := { endpoint }
  { q with offset := criteria.offset.getD q.offset, limit := criteria.limit.getD q.limit }

/-- Add the parameter that makes the server repeat the request, if the settings ask for it. -/
def withEcho (settings : Settings) (q : Query) : Query :=
  match Settings.given settings.echoParams with
  | none => q
  | some s => { q with params := q.params.set "echoParams" s }

/-- The query of criteria. -/
def compile (settings : Settings) (criteria : Criteria) : Except Failure Query := do
  let endpoint ← endpointFor settings criteria
  return withEcho settings (← criteria.entries.foldlM takeEntry (start criteria endpoint))

/-! ### One line -/

/-- What an entry contributes to the criteria as one relevance query. -/
def fragment? (entry : Criterion) : Except Failure (Option String) :=
  if entry.isControl then
    if entry.field = Control.query ∧ !entry.value.isNull then
      (directiveText entry.value).map some
    else .ok none
  else if entry.operator = .sort then .ok none
  else entry.clause?.mapError .operand

/-- The words of the one-line query: every fragment but the first after its own conjunction. -/
def lineWords (seen : List String) (entry : Criterion) : Except Failure (List String) := do
  match ← fragment? entry with
  | none => return seen
  | some s => return if seen.isEmpty then [s] else seen ++ [entry.conjunction.name, s]

/-- Criteria as one relevance query. -/
def line (criteria : Criteria) : Except Failure String := do
  return Text.joinWith " " (← criteria.entries.foldlM lineWords [])

end CriteriaSearch.Query
