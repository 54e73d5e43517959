import CriteriaSearch.Http.Request
import CriteriaSearch.Json.Reader
import CriteriaSearch.Value.Text

/-!
# HTTP replies

The table in the reply of a server: a JSON object with a header, which has the status of the query,
and a response, which has the documents, how many were found, and where the page starts.
-/

namespace CriteriaSearch.Http

/-- What a client makes of a message: the connection is lost, the client fails over a value or in
another way, or a reply is received. -/
inductive Reply where
  | lost (cause : String)
  | broken
  | refused (cause : String)
  | received (status : Nat) (body : List UInt8)

namespace Reply

/-- The name of the kind of a value, as messages have it. -/
def kind : Value → String
  | .null => "NoneType"
  | .bool _ => "bool"
  | .int _ => "int"
  | .float _ => "float"
  | .decimal _ => "decimal.Decimal"
  | .text _ => "str"
  | .dateTime _ => "datetime.datetime"
  | .date _ => "datetime.date"
  | .tuple _ => "tuple"
  | .list _ => "list"
  | .record _ => "dict"

/-- A part of a reply as a record; a part that is no value is an empty record. -/
def recordPart (v : Value) : Except Failure Row :=
  match v with
  | .record fields => .ok fields
  | v => if v.isTruthy then .error (.reply (.notARecord (kind v))) else .ok []

/-- Whether a status is the number zero, which it is also as a truth value. -/
def isSuccess : Value → Except Failure Bool
  | .bool b => .ok !b
  | .int n => .ok (n == 0)
  | .float x => .ok x.isZero
  | .decimal (.nan _ true _) => .error (.reply .signallingNaN)
  | .decimal d => .ok d.isZero
  | _ => .ok false

/-- The failure that a status tells, if the status can be written. -/
def statusFailure (status : Value) : Failure :=
  match status.written with
  | .ok s => .execution (.queryStatus s)
  | .error cause => .operand (.numeral cause)

/-- The records among documents. -/
def records : List Value → List Row
  | [] => []
  | .record fields :: vs => fields :: records vs
  | _ :: vs => records vs

/-- The documents of a response. Texts and records have none. -/
def documents (v : Value) : Except Failure (List Row) :=
  match v with
  | .list items => .ok (records items)
  | .tuple items => .ok (records items)
  | .text _ => .ok []
  | .record _ => .ok []
  | v => if v.isTruthy then .error (.reply (.notAList (kind v))) else .ok []

/-- The integer of a numeral. -/
def numeral (s : String) : Except Failure Int :=
  match Numeral.int? s.toList with
  | some n => .ok n
  | none =>
    match Numeral.digits? (Numeral.sign (Text.trimBy Numeral.isMargin s.toList)).2 with
    | some ds => .error (.reply (.numeralTooLong ds.length))
    | none => .error (.reply (.notANumeral s))

/-- A count as an integer; fractions are cut off. -/
def integer : Value → Except Failure Int
  | .bool b => .ok (if b then 1 else 0)
  | .int n => .ok n
  | .float x =>
    match x.truncate with
    | .ok n => .ok n
    | .error .nan => .error (.reply (.nan true))
    | .error .infinite => .error (.reply (.infinite true))
  | .decimal d =>
    match d.truncate with
    | .ok n => .ok n
    | .error .nan => .error (.reply (.nan false))
    | .error .infinite => .error (.reply (.infinite false))
  | .text s => numeral s
  | v => .error (.reply (.notANumber (kind v)))

/-- A count of a response, or its default. -/
def count (response : Row) (name : String) (default : Int) : Except Failure Int :=
  match Named.get? response name with
  | none => .ok default
  | some v => integer v

/-- The table of a reply that was asked for with a window. -/
def table (payload : Value) (offset limit : Int) : Except Failure Table := do
  match payload with
  | .record fields =>
    let header ← recordPart (Row.get fields "responseHeader")
    let status := (Named.get? header "status").getD (.int 0)
    if !(← isSuccess status) then .error (statusFailure status)
    else
      let response ← recordPart (Row.get fields "response")
      let rows ← documents (Row.get response "docs")
      let totalFound ← count response "numFound" rows.length
      let start ← count response "start" offset
      return .ofRows rows (some totalFound) start limit
  | _ => .error (.execution .notAnObject)

/-- Read what came back for a message that asked for a query. A failure over a value counts as a
reply that is no JSON, and so does a body that is none. A body that is nested deeper than there is
room for is a failure of its own. -/
def read (room : Nat) (m : Message) (q : Query) : Reply → Except Failure Table
  | .lost cause => .error (.execution (.requestFailed cause))
  | .broken => .error (.execution (.notJson m.url))
  | .refused cause => .error (.unreachable cause)
  | .received status body =>
    if status < 200 ∨ 300 ≤ status then .error (.execution (.httpStatus status))
    else
      match Json.ofBytes room body with
      | .error (.tooDeep nesting) => .error (.tooDeep nesting)
      | .error _ => .error (.execution (.notJson m.url))
      | .ok payload => table payload q.offset q.limit

end Reply

/-- A source that sends messages. `send` gives a message to a client and has what becomes of it, and
`room` is the number of levels that the JSON of a reply can have. -/
def source {σ : Type} (settings : Settings) (send : Message → StateM σ Reply) (room : Nat := 990) :
    Source σ where
  fetch r :=
    match Message.ofRequest settings r with
    | .error e => return .error e
    | .ok m => do return (← send m).read room m r.windowed

end CriteriaSearch.Http
