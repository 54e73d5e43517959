import CriteriaSearch.Search.Run
import CriteriaSearch.Service.Body

/-!
# The service

Two endpoints take a body: one answers with the query that its criteria compile to, the other one
searches and answers with the rows. How bodies are read from the text of a request, and how values
are written into an answer, is up to the framework in which the endpoints stand.
-/

namespace CriteriaSearch.Api

/-- What a framework says itself of a text that is no body. -/
structure Rejection where
  status : Nat
  detail : Value

/-- An answer of the service; `crashed` is an internal error. -/
inductive Answer where
  | ok (body : Value)
  | refused (status : Nat) (message : String)
  | rejected (r : Rejection)
  | crashed

namespace Answer

def status : Answer → Nat
  | .ok _ => 200
  | .refused status _ => status
  | .rejected r => r.status
  | .crashed => 500

/-- The JSON of an answer, as far as it has one. -/
def body? : Answer → Option Value
  | .ok body => some body
  | .refused _ message => some (.record [("error", .text message)])
  | .rejected r => some (.record [("detail", r.detail)])
  | .crashed => none

/-- Failures of filter texts and of compiling are the fault of the request, failures of execution
that of the collection. -/
def ofFailure (f : Failure) : Answer :=
  if f.isFilterRefusal || f.isCompileError then .refused 400 f.message
  else if f.isExecutionError then .refused 502 f.message
  else .crashed

end Answer

/-- The framework of the service: it reads the body in the text of a request, and encodes a value as
the JSON of an answer, which may fail. -/
structure Framework where
  read : String → Except Rejection Body
  encode : Value → Option Value

/-- The answer with a value. -/
def Framework.answer (w : Framework) (v : Value) : Answer :=
  match w.encode v with
  | some body => .ok body
  | none => .crashed

/-! ### Compiling -/

/-- A compiled query, and its criteria as one line. -/
def previewRecord (q : Query) (line : String) : Value :=
  .record [("compiled", q.toRecord), ("query_string", .text line)]

/-- The query of a body, and its criteria as one line. -/
def compileBody (env : Environment) (b : Body) : Except Failure Value := do
  let criteria ← b.criteria
  let settings ← Settings.resolve env
  let query ← Query.compile settings criteria
  let line ← Query.line criteria
  return previewRecord query line

def compile (w : Framework) (env : Environment) (text : String) : Answer :=
  match w.read text with
  | .error r => .rejected r
  | .ok b =>
    match compileBody env b with
    | .ok v => w.answer v
    | .error f => .ofFailure f

/-! ### Searching -/

/-- A table as the service shows it. -/
def tableRecord (t : Table) : Value :=
  .record [
    ("total_found", .int t.totalFound),
    ("offset", .int t.offset),
    ("limit", .int t.limit),
    ("columns", .list (t.columns.map fun c =>
      .record [("name", .text c.name), ("type", .text c.type.name)])),
    ("rows", .list (t.rows.map .record))]

/-- An answer, and the collection for which a source was opened, if one was. -/
structure Outcome where
  answer : Answer
  opened : Option (Option String) := none

/-- Search with a source that is opened for settings. -/
def search {σ : Type} (w : Framework) (source : Settings → Source σ) (env : Environment)
    (text : String) : StateM σ Outcome :=
  match w.read text with
  | .error r => return { answer := .rejected r }
  | .ok b =>
    match b.criteria with
    | .error f => return { answer := .ofFailure f }
    | .ok criteria =>
      match Settings.resolve env { collection := b.collection } with
      | .error f => return { answer := .ofFailure f }
      | .ok settings => do
        let engine : Engine σ := { source := source settings, settings }
        let answer := match ← engine.search criteria with
          | .ok t => w.answer (tableRecord t)
          | .error f => .ofFailure f
        return { answer, opened := some b.collection }

end CriteriaSearch.Api
