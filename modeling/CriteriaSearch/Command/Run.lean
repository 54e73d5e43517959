import CriteriaSearch.Command.Arguments
import CriteriaSearch.Command.Markup
import CriteriaSearch.Filter
import CriteriaSearch.Json.Writer
import CriteriaSearch.Search.Run

/-!
# Commands

`compile` shows the query of criteria, `search` runs it and shows the rows, and `expand-spec` shows
how an expansion is read.
-/

namespace CriteriaSearch.Command

/-- What is handed to the console. -/
inductive Print where
  | panel (text title border : String)
  | table (title : String) (columns : List (String × Option String)) (rows : List (List String))
  | text (s : String)
  | status (s : String)

/-- What a command did: its exit code, what it showed, and the failure that ended it, if it did not
end by itself. -/
structure Outcome where
  exitCode : Nat := 0
  prints : List Print := []
  failure : Option Failure := none
  opened : Option Settings := none

namespace Outcome

/-- The arguments are not those of a command. -/
def usage : Outcome := { exitCode := 2 }

/-- End with an error message. -/
def fail (message : String) (prints : List Print := []) (opened : Option Settings := none) :
    Outcome :=
  { exitCode := 1, prints := prints ++ [.text ("Error: " ++ Markup.shown message)], opened }

/-- End with a failure that has no message for the user. -/
def crash (f : Failure) (prints : List Print := []) (opened : Option Settings := none) : Outcome :=
  { exitCode := 1, prints, failure := some f, opened }

/-- End with a failure of filter texts or searches, or with any other one. -/
def ofFailure (f : Failure) (prints : List Print := []) (opened : Option Settings := none) :
    Outcome :=
  if f.isFilterRefusal || f.isSearchFailure then fail f.message prints opened
  else crash f prints opened

end Outcome

/-! ### Options -/

def globalOptions : List Arguments.OptionSpec := [⟨"verbose", some 'v', false⟩]

def criteriaOptions : List Arguments.OptionSpec :=
  [⟨"filters", some 'f', true⟩, ⟨"query", some 'q', true⟩, ⟨"handler", none, true⟩,
    ⟨"expand", some 'e', true⟩, ⟨"offset", none, true⟩, ⟨"limit", some 'n', true⟩]

def compileOptions : List Arguments.OptionSpec :=
  criteriaOptions ++ [⟨"as-string", none, false⟩]

def searchOptions : List Arguments.OptionSpec :=
  criteriaOptions
    ++ [⟨"solr-url", none, true⟩, ⟨"collection", some 'c', true⟩, ⟨"workers", none, true⟩]

/-- The arguments of `compile` and `search`. -/
structure Options where
  filters : Option String := none
  query : Option String := none
  handler : Option String := none
  expand : Option String := none
  offset : Option Int := none
  limit : Option Int := none
  asLine : Bool := false
  solrUrl : Option String := none
  collection : Option String := none
  workers : Int := 1

/-- An integer option: absent, or a numeral. -/
def integer? (p : Arguments.Parsed) (name : String) : Option (Option Int) :=
  match p.value? name with
  | none => some none
  | some s => (Numeral.int? s.toList).map some

/-- The options in parsed arguments, which must all be options. -/
def Options.ofParsed? (p : Arguments.Parsed) : Option Options := do
  if !p.rest.isEmpty then none
  let offset ← integer? p "offset"
  let limit ← integer? p "limit"
  let workers ← integer? p "workers"
  return {
    filters := p.value? "filters"
    query := p.value? "query"
    handler := p.value? "handler"
    expand := p.value? "expand"
    offset
    limit
    asLine := p.has "as-string"
    solrUrl := p.value? "solr-url"
    collection := p.value? "collection"
    workers := workers.getD 1 }

inductive Parsed where
  | compile (r : Options)
  | search (r : Options)
  | expandSpec (text : String)

/-- The command in arguments. -/
def parse (args : List String) : Option Parsed := do
  match (← Arguments.parse globalOptions false {} args).rest with
  | "compile" :: args =>
    return .compile (← Options.ofParsed? (← Arguments.parse compileOptions true {} args))
  | "search" :: args =>
    return .search (← Options.ofParsed? (← Arguments.parse searchOptions true {} args))
  | "expand-spec" :: args =>
    match ← Arguments.parse [] true {} args with
    | ⟨_, [text]⟩ => return .expandSpec text
    | _ => none
  | _ => none

/-! ### Commands -/

/-- The criteria of options: query and handler, the filter text, the expansion. -/
def Options.criteria (r : Options) : Except Failure Criteria :=
  let c : Criteria := { offset := r.offset, limit := r.limit }
  let c := c.addGiven Criteria.addQuery r.query
  let c := c.addGiven Criteria.addHandler r.handler
  match c.addFilter {} (r.filters.getD "") with
  | (_, some e) => .error (.filter e)
  | (c, none) => .ok (c.addGiven Criteria.addExpansion r.expand)

/-- What `compile` shows. -/
def compilePrint (env : Environment) (r : Options) : Except Failure Print := do
  let criteria ← r.criteria
  let settings ← Settings.resolve env
  if r.asLine then return .text (← Query.line criteria)
  else
    let query ← Query.compile settings criteria
    return .panel ("```json\n" ++ Json.render query.toRecord ++ "\n```")
      ("Compiled query (" ++ query.endpoint ++ ")") "bold yellow"

def compile (env : Environment) (r : Options) : Outcome :=
  match compilePrint env r with
  | .ok print => { prints := [print] }
  | .error f => .ofFailure f

/-- A cell as text, if it can be written; null is empty. -/
def cellText (v : Value) : Except Failure String :=
  if v.isNull then .ok "" else v.written.mapError fun cause => .operand (.numeral cause)

/-- The rows of a table under its columns, if all cells can be written. -/
def tablePrint (t : Table) : Except Failure Print := do
  let rows ← t.rows.mapM fun row => t.columns.mapM fun c => cellText (Row.get row c.name)
  return .table (toString t.rows.length ++ " of " ++ toString t.totalFound ++ " documents")
    (t.columns.map fun c => (c.name, if c.name = "is_expanded" then some "bold magenta" else none))
    rows

def search {σ : Type} (source : Settings → Source σ) (env : Environment) (r : Options) :
    StateM σ Outcome :=
  match r.criteria with
  | .error f => return .ofFailure f
  | .ok criteria =>
    match Settings.resolve env { url := r.solrUrl, collection := r.collection } with
    | .error f => return .crash f
    | .ok settings => do
      let engine : Engine σ :=
        { source := source settings, settings, schedule := .ofWorkers r.workers }
      let status := Print.status "Querying Solr..."
      match ← engine.search criteria with
      | .ok t =>
        return match tablePrint t with
          | .ok print => { prints := [status, print], opened := some settings }
          | .error f => .crash f [status] (some settings)
      | .error f =>
        return if f.isSearchFailure then .fail f.message [status] (some settings)
          else .crash f [status] (some settings)

def expandSpec (text : String) : Outcome :=
  match Expansion.ofText text with
  | .error f => .crash f
  | .ok e =>
    { prints := [.panel
        ("mode: " ++ e.mode.name ++ "\noffset: " ++ toString e.offset ++ "\nlimit: "
          ++ toString e.limit)
        "Expansion" "bold green"] }

/-- Run a command with sources that are opened for settings. -/
def run {σ : Type} (source : Settings → Source σ) (env : Environment) (args : List String) :
    StateM σ Outcome :=
  match parse args with
  | none => return .usage
  | some (.compile r) => return compile env r
  | some (.search r) => search source env r
  | some (.expandSpec text) => return expandSpec text

end CriteriaSearch.Command
