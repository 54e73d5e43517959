import CriteriaSearch.Http.Reply
import CriteriaSearch.Proofs.Json.Reader
import Mathlib.Tactic.MkIffOfInductiveProp

/-!
# Replies that can be read

A fetch ends with a table or with a failure of execution, with three exceptions: a JSON object in
which a part that is read has a shape that cannot be read, JSON that is nested too deep, and a
message that the client refuses. Parts that are no value, texts for documents and numerals for
counts are read all the same.
-/

namespace CriteriaSearch.Http

/-- A table, or a failure of execution. -/
def Settles (result : Except Failure Table) : Prop :=
  (∃ t, result = .ok t) ∨ ∃ e, result = .error (.execution e)

theorem not_settles {f : Failure} (hf : ∀ e, f ≠ .execution e) : ¬ Settles (.error f) := by
  rintro (⟨t, h⟩ | ⟨e, h⟩)
  · cases h
  · exact hf e (Except.error.inj h)

namespace Reply

/-! ### Shapes -/

/-- A record, or no value. -/
def IsPart (v : Value) : Prop := (∃ fields, v = .record fields) ∨ v.isTruthy = false

def partOf : Value → Row
  | .record fields => fields
  | _ => []

/-- What has items, or no value. -/
inductive IsCollection : Value → Prop
  | list (items : List Value) : IsCollection (.list items)
  | tuple (items : List Value) : IsCollection (.tuple items)
  | text (s : String) : IsCollection (.text s)
  | record (fields : Row) : IsCollection (.record fields)
  | empty {v : Value} (h : v.isTruthy = false) : IsCollection v

/-- A number with an integer part, or the numeral of an integer. -/
inductive IsCount : Value → Prop
  | bool (b : Bool) : IsCount (.bool b)
  | int (n : Int) : IsCount (.int n)
  | float {x : Binary64} (h : x.isFinite = true) : IsCount (.float x)
  | decimal {d : Decimal} (h : d.isFinite = true) : IsCount (.decimal d)
  | text {s : String} {n : Int} (h : Numeral.int? s.toList = some n) : IsCount (.text s)

/-- The number zero, which a truth value is too. -/
inductive IsZero : Value → Prop
  | bool : IsZero (.bool false)
  | int : IsZero (.int 0)
  | float {x : Binary64} (h : x.isZero = true) : IsZero (.float x)
  | decimal {d : Decimal} (h : d.isZero = true) : IsZero (.decimal d)

/-- A number that cannot be compared. -/
inductive IsSignalling : Value → Prop
  | nan (negative : Bool) (payload : Nat) : IsSignalling (.decimal (.nan negative true payload))

/-- The status of a reply, zero if there is none. -/
def statusOf (fields : Row) : Value :=
  (Named.get? (partOf (Row.get fields "responseHeader")) "status").getD (.int 0)

@[mk_iff]
structure IsPage (response : Value) : Prop where
  part : IsPart response
  docs : IsCollection (Row.get (partOf response) "docs")
  numFound : ∀ v, Named.get? (partOf response) "numFound" = some v → IsCount v
  start : ∀ v, Named.get? (partOf response) "start" = some v → IsCount v

/-- A JSON object that can be read. The page does not matter if the status is a failure. -/
structure IsLegible (fields : Row) : Prop where
  header : IsPart (Row.get fields "responseHeader")
  status : ¬ IsSignalling (statusOf fields)
  page : IsZero (statusOf fields) → IsPage (Row.get fields "response")

/-- A reply of success with a JSON object that cannot be read. -/
inductive IsGarbled (room : Nat) : Reply → Prop
  | object {status : Nat} {body : List UInt8} {fields : Row} (success : 200 ≤ status ∧ status < 300)
      (json : Json.ofBytes room body = .ok (.record fields)) (illegible : ¬ IsLegible fields) :
      IsGarbled room (.received status body)

/-- A reply of success with JSON for which there is no room. -/
inductive IsNested (room : Nat) (nesting : Nesting) : Reply → Prop
  | body {status : Nat} {body : List UInt8} (success : 200 ≤ status ∧ status < 300)
      (json : Json.ofBytes room body = .error (.tooDeep nesting)) :
      IsNested room nesting (.received status body)

/-! ### Parts -/

/-- What is made of a part: a result if it is legible, else a failure of a kind of its own. -/
inductive Parsed {α : Type} (legible : Prop) : Except Failure α → Prop
  | read (a : α) (h : legible) : Parsed legible (.ok a)
  | stuck (e : ReplyError) (h : ¬ legible) : Parsed legible (.error (.reply e))

namespace Parsed

variable {α β : Type} {p q : Prop}

theorem congr {x : Except Failure α} (h : Parsed p x) (hpq : p ↔ q) : Parsed q x := by
  cases h with
  | read a hp => exact .read a (hpq.mp hp)
  | stuck e hp => exact .stuck e fun hq => hp (hpq.mpr hq)

theorem legible {a : α} (h : Parsed p (.ok a)) : p := by
  cases h
  assumption

/-- The second part counts only if the first one is read. -/
theorem bind {x : Except Failure α} {f : α → Except Failure β} (hx : Parsed p x)
    (hf : ∀ a, x = .ok a → Parsed q (f a)) : Parsed (p ∧ q) (x >>= f) := by
  cases hx with
  | read a hp => exact (hf a rfl).congr (and_iff_right hp).symm
  | stuck e hp => exact .stuck e fun h => hp h.1

theorem bind_pure {x : Except Failure α} (hx : Parsed p x) (f : α → β) :
    Parsed p (x >>= fun a => pure (f a)) := by
  cases hx with
  | read a hp => exact .read (f a) hp
  | stuck e hp => exact .stuck e hp

end Parsed

/-- What is no value is read as if it were not there. -/
theorem parsed_unless_truthy {α : Type} {p : Prop} {v : Value} (hp : p ↔ v.isTruthy = false)
    (e : ReplyError) (a : α) : Parsed p (if v.isTruthy then .error (.reply e) else .ok a) := by
  cases htruthy : v.isTruthy with
  | false => exact .read a (hp.mpr htruthy)
  | true =>
      apply Parsed.stuck e
      intro h
      rw [hp.mp h] at htruthy
      cases htruthy

theorem parsed_recordPart (v : Value) : Parsed (IsPart v) (recordPart v) := by
  cases v with
  | record fields => exact .read fields (.inl ⟨fields, rfl⟩)
  | _ =>
      unfold recordPart
      exact parsed_unless_truthy (or_iff_right nofun) _ []

theorem eq_partOf {v : Value} {fields : Row} (h : recordPart v = .ok fields) :
    fields = partOf v := by
  cases v with
  | record fields => exact (Except.ok.inj h).symm
  | _ =>
      unfold recordPart at h
      dsimp only at h
      split_ifs at h
      exact (Except.ok.inj h).symm

theorem parsed_documents (v : Value) : Parsed (IsCollection v) (documents v) := by
  cases v with
  | list items => exact .read _ (.list items)
  | tuple items => exact .read _ (.tuple items)
  | text s => exact .read _ (.text s)
  | record fields => exact .read _ (.record fields)
  | _ =>
      unfold documents
      refine parsed_unless_truthy ⟨fun h => ?_, IsCollection.empty⟩ _ []
      cases h
      assumption

theorem parsed_numeral (s : String) : Parsed (IsCount (.text s)) (numeral s) := by
  unfold numeral
  cases hread : Numeral.int? s.toList with
  | some n => exact .read n (.text hread)
  | none =>
      have hnot : ¬ IsCount (.text s) := fun
        | .text hsome => by
            rw [hread] at hsome
            cases hsome
      dsimp only
      split
      · exact .stuck _ hnot
      · exact .stuck _ hnot

theorem parsed_integer (v : Value) : Parsed (IsCount v) (integer v) := by
  cases v with
  | bool b => exact .read _ (.bool b)
  | int n => exact .read n (.int n)
  | float x =>
      cases x with
      | finite => exact .read _ (.float rfl)
      | _ => exact .stuck _ fun | .float h => Bool.noConfusion h
  | decimal d =>
      cases d with
      | finite => exact .read _ (.decimal rfl)
      | _ => exact .stuck _ fun | .decimal h => Bool.noConfusion h
  | text s => exact parsed_numeral s
  | _ => exact .stuck _ nofun

theorem parsed_count (response : Row) (name : String) (default : Int) :
    Parsed (∀ v, Named.get? response name = some v → IsCount v) (count response name default) := by
  unfold count
  cases hget : Named.get? response name with
  | none => exact .read default nofun
  | some v =>
      refine (parsed_integer v).congr ⟨fun h w hw => ?_, fun h => h v rfl⟩
      rwa [← Option.some.inj hw]

/-- A status tells success from failure unless it cannot be compared. -/
theorem isSuccess_cases (v : Value) :
    (IsSignalling v ∧ isSuccess v = .error (.reply .signallingNaN)) ∨
      (¬ IsSignalling v ∧ ∃ b, isSuccess v = .ok b ∧ (b = true ↔ IsZero v)) := by
  cases v with
  | bool b =>
      refine .inr ⟨nofun, !b, rfl, ?_⟩
      cases b with
      | false => exact iff_of_true rfl .bool
      | true => exact iff_of_false Bool.noConfusion nofun
  | int n =>
      refine .inr ⟨nofun, n == 0, rfl, ?_⟩
      constructor
      · intro hzero
        rw [eq_of_beq hzero]
        exact .int
      · rintro ⟨⟩
        rfl
  | float x => exact .inr ⟨nofun, x.isZero, rfl, .float, fun | .float h => h⟩
  | decimal d =>
      cases d with
      | finite negative c e => exact .inr ⟨nofun, _, rfl, .decimal, fun | .decimal h => h⟩
      | infinity negative => exact .inr ⟨nofun, _, rfl, .decimal, fun | .decimal h => h⟩
      | nan negative signalling payload =>
          cases signalling with
          | true => exact .inl ⟨.nan negative payload, rfl⟩
          | false => exact .inr ⟨nofun, _, rfl, .decimal, fun | .decimal h => h⟩
  | _ => exact .inr ⟨nofun, false, rfl, Bool.noConfusion, nofun⟩

/-! ### Tables -/

def page (response : Value) (offset limit : Int) : Except Failure Table := do
  let response ← recordPart response
  let rows ← documents (Row.get response "docs")
  let totalFound ← count response "numFound" rows.length
  let start ← count response "start" offset
  return .ofRows rows (some totalFound) start limit

theorem parsed_page (v : Value) (offset limit : Int) :
    Parsed (IsPage v) (page v offset limit) := by
  refine ((parsed_recordPart v).bind fun response hresponse => ?_).congr (isPage_iff v).symm
  obtain rfl := eq_partOf hresponse
  refine (parsed_documents _).bind fun rows _ => ?_
  refine (parsed_count _ "numFound" rows.length).bind fun totalFound _ => ?_
  exact (parsed_count _ "start" offset).bind_pure fun start =>
    Table.ofRows rows (some totalFound) start limit

theorem table_eq {fields header : Row}
    (hheader : recordPart (Row.get fields "responseHeader") = .ok header) (offset limit : Int) :
    table (.record fields) offset limit = (do
      if !(← isSuccess (statusOf fields)) then .error (statusFailure (statusOf fields))
      else page (Row.get fields "response") offset limit) := by
  obtain rfl := eq_partOf hheader
  rw [table, hheader]
  rfl

theorem statusFailure_of_isWritable {status : Value} (h : status.isWritable = true) :
    statusFailure status = .execution (.queryStatus status.toText) := by
  rw [statusFailure, Value.written, if_pos h]

theorem isWritable_get {fields : Row} (h : ∀ p ∈ fields, p.2.isWritable = true) (name : String) :
    (Row.get fields name).isWritable = true := by
  unfold Row.get
  cases hget : Named.get? fields name with
  | none => rfl
  | some v => exact h _ (mem_of_lookup_eq_some hget)

theorem isWritable_partOf {v : Value} (h : v.isWritable = true) :
    ∀ p ∈ partOf v, p.2.isWritable = true := by
  cases v with
  | record fields => exact Value.areFieldsWritable_iff.mp h
  | _ => exact List.forall_mem_nil _

theorem isWritable_statusOf {fields : Row} (h : ∀ p ∈ fields, p.2.isWritable = true) :
    (statusOf fields).isWritable = true := by
  have hheader := isWritable_partOf (isWritable_get h "responseHeader")
  unfold statusOf
  cases hget : Named.get? (partOf (Row.get fields "responseHeader")) "status" with
  | none => decide
  | some v => exact hheader _ (mem_of_lookup_eq_some hget)

/-- A JSON object is read to its end if it is legible. -/
theorem table_cases {fields : Row} (hwritable : ∀ p ∈ fields, p.2.isWritable = true)
    (offset limit : Int) :
    (IsLegible fields ∧ Settles (table (.record fields) offset limit)) ∨
      (¬ IsLegible fields ∧ ∃ e, table (.record fields) offset limit = .error (.reply e)) := by
  have hheader := parsed_recordPart (Row.get fields "responseHeader")
  cases hread : recordPart (Row.get fields "responseHeader") with
  | error f =>
      rw [hread] at hheader
      cases hheader with
      | stuck e hpart =>
          refine .inr ⟨fun h => hpart h.header, e, ?_⟩
          rw [table, hread]
          rfl
  | ok header =>
      rw [hread] at hheader
      have hpart := hheader.legible
      rw [table_eq hread]
      rcases isSuccess_cases (statusOf fields) with ⟨hstatus, hok⟩ | ⟨hstatus, ok, hok, hzero⟩
      · rw [hok]
        exact .inr ⟨fun h => h.status hstatus, _, rfl⟩
      · rw [hok]
        cases ok with
        | false =>
            -- The response is not looked at.
            have hfailure := statusFailure_of_isWritable (isWritable_statusOf hwritable)
            refine .inl ⟨⟨hpart, hstatus, fun h => ?_⟩, .inr ⟨_, congrArg Except.error hfailure⟩⟩
            exact Bool.noConfusion (hzero.mpr h)
        | true =>
            have hpage := parsed_page (Row.get fields "response") offset limit
            generalize page (Row.get fields "response") offset limit = result at hpage ⊢
            cases hpage with
            | read t hpage => exact .inl ⟨⟨hpart, hstatus, fun _ => hpage⟩, .inl ⟨t, rfl⟩⟩
            | stuck e hpage => exact .inr ⟨fun h => hpage (h.page (hzero.mp rfl)), e, rfl⟩

theorem settles_of_not_record {payload : Value} (h : ∀ fields, payload ≠ .record fields)
    (offset limit : Int) : Settles (table payload offset limit) := by
  refine .inr ⟨.notAnObject, ?_⟩
  cases payload with
  | record fields => exact absurd rfl (h fields)
  | _ => rfl

/-! ### Replies -/

/-- What is made of a reply: a table or a failure of execution, unless the reply is garbled, nested
too deep or refused; each of these has a failure of its own. -/
inductive Reads (room : Nat) : Reply → Except Failure Table → Prop
  | settled {reply : Reply} {result : Except Failure Table} (h : Settles result)
      (legible : ¬ reply.IsGarbled room) (shallow : ∀ nesting, ¬ reply.IsNested room nesting)
      (accepted : ∀ cause, reply ≠ .refused cause) : Reads room reply result
  | garbled {reply : Reply} (e : ReplyError) (h : reply.IsGarbled room) :
      Reads room reply (.error (.reply e))
  | nested {reply : Reply} {nesting : Nesting} (h : reply.IsNested room nesting) :
      Reads room reply (.error (.tooDeep nesting))
  | refused (cause : String) : Reads room (.refused cause) (.error (.unreachable cause))

variable {room : Nat}

theorem reads_of_payload {status : Nat} {body : List UInt8} {payload : Value}
    (hsuccess : 200 ≤ status ∧ status < 300) (hjson : Json.ofBytes room body = .ok payload)
    (offset limit : Int) : Reads room (.received status body) (table payload offset limit) := by
  have hshallow : ∀ nesting, ¬ (Reply.received status body).IsNested room nesting := by
    rintro nesting ⟨-, hother⟩
    rw [hjson] at hother
    cases hother
  by_cases hrecord : ∃ fields, payload = .record fields
  · obtain ⟨fields, rfl⟩ := hrecord
    have hwritable := Value.areFieldsWritable_iff.mp (Json.isWritable_of_ofBytes hjson)
    rcases table_cases hwritable offset limit with ⟨hlegible, hread⟩ | ⟨hlegible, e, hread⟩
    · refine .settled hread ?_ hshallow nofun
      rintro ⟨-, hother, hillegible⟩
      rw [hjson] at hother
      cases hother
      exact hillegible hlegible
    · rw [hread]
      exact .garbled e (.object hsuccess hjson hlegible)
  · have hread := settles_of_not_record (fun fields h => hrecord ⟨fields, h⟩) offset limit
    refine .settled hread ?_ hshallow nofun
    rintro ⟨-, hother, -⟩
    rw [hjson] at hother
    exact hrecord ⟨_, Except.ok.inj hother⟩

theorem reads_of_body {status : Nat} {body : List UInt8} (hsuccess : 200 ≤ status ∧ status < 300)
    (m : Message) (q : Query) :
    Reads room (.received status body) ((Reply.received status body).read room m q) := by
  have hstatus : ¬ (status < 200 ∨ 300 ≤ status) := by omega
  unfold read
  dsimp only
  rw [if_neg hstatus]
  cases hjson : Json.ofBytes room body with
  | ok payload => exact reads_of_payload hsuccess hjson q.offset q.limit
  | error e =>
      cases e with
      | tooDeep nesting => exact .nested (.body hsuccess hjson)
      | _ =>
          refine .settled (.inr ⟨_, rfl⟩) ?_ ?_ nofun
          · rintro ⟨-, hother, -⟩
            rw [hjson] at hother
            cases hother
          · rintro nesting ⟨-, hother⟩
            rw [hjson] at hother
            cases hother

theorem reads_read (room : Nat) (m : Message) (q : Query) (reply : Reply) :
    Reads room reply (reply.read room m q) := by
  cases reply with
  | lost cause => exact .settled (.inr ⟨_, rfl⟩) nofun nofun nofun
  | broken => exact .settled (.inr ⟨_, rfl⟩) nofun nofun nofun
  | refused cause => exact .refused cause
  | received status body =>
      by_cases hsuccess : 200 ≤ status ∧ status < 300
      · exact reads_of_body hsuccess m q
      · have hstatus : status < 200 ∨ 300 ≤ status := by omega
        have hread : (Reply.received status body).read room m q =
            .error (.execution (.httpStatus status)) := if_pos hstatus
        rw [hread]
        refine .settled (.inr ⟨_, rfl⟩) ?_ ?_ nofun
        · rintro ⟨hother, -, -⟩
          exact hsuccess hother
        · rintro nesting ⟨hother, -⟩
          exact hsuccess hother

theorem IsGarbled.not_isNested {reply : Reply} (h : reply.IsGarbled room) (nesting : Nesting) :
    ¬ reply.IsNested room nesting := by
  cases h with
  | object success json illegible =>
      rintro ⟨-, hother⟩
      rw [json] at hother
      cases hother

theorem IsNested.unique {reply : Reply} {nesting other : Nesting}
    (h : reply.IsNested room nesting) (hother : reply.IsNested room other) : nesting = other := by
  obtain ⟨-, hjson⟩ := h
  obtain ⟨-, hjson'⟩ := hother
  rw [hjson] at hjson'
  cases hjson'
  rfl

end Reply

theorem fetch_eq {σ : Type} {settings : Settings} {r : Request} {m : Message}
    (hm : Message.ofRequest settings r = .ok m) (send : Message → StateM σ Reply) (room : Nat)
    (s : σ) :
    ((source settings send room).fetch r s).1 = (send m s).1.read room m r.windowed := by
  unfold source
  dsimp only
  rw [hm]
  rfl

/-- What a fetch makes of a reply is a table or a failure of execution, unless the reply is garbled
or nested too deep or the message is refused: then it fails in a way of its own. -/
theorem fetch_settles_iff {σ : Type} {settings : Settings} {r : Request} {m : Message}
    (hm : Message.ofRequest settings r = .ok m) (send : Message → StateM σ Reply) (room : Nat)
    (s : σ) :
    (Settles ((source settings send room).fetch r s).1 ↔
        ¬ (send m s).1.IsGarbled room ∧ (∀ nesting, ¬ (send m s).1.IsNested room nesting) ∧
          ∀ cause, (send m s).1 ≠ .refused cause) ∧
      ((send m s).1.IsGarbled room →
        ∃ e, ((source settings send room).fetch r s).1 = .error (.reply e)) ∧
      (∀ nesting, (send m s).1.IsNested room nesting →
        ((source settings send room).fetch r s).1 = .error (.tooDeep nesting)) ∧
      ∀ cause, (send m s).1 = .refused cause →
        ((source settings send room).fetch r s).1 = .error (.unreachable cause) := by
  rw [fetch_eq hm]
  have hreads := Reply.reads_read room m r.windowed (send m s).1
  generalize (send m s).1.read room m r.windowed = result at hreads ⊢
  generalize (send m s).1 = reply at hreads ⊢
  cases hreads with
  | settled hsettles hlegible hshallow haccepted =>
      exact ⟨iff_of_true hsettles ⟨hlegible, hshallow, haccepted⟩, fun h => absurd h hlegible,
        fun nesting h => absurd h (hshallow nesting), fun cause h => absurd h (haccepted cause)⟩
  | garbled e hgarbled =>
      refine ⟨iff_of_false (not_settles nofun) fun h => h.1 hgarbled, fun _ => ⟨e, rfl⟩, ?_, ?_⟩
      · exact fun nesting h => absurd h (hgarbled.not_isNested nesting)
      · rintro cause rfl
        cases hgarbled
  | @nested _ nesting hnested =>
      refine ⟨iff_of_false (not_settles nofun) fun h => h.2.1 nesting hnested, ?_, ?_, ?_⟩
      · exact fun hgarbled => absurd hnested (hgarbled.not_isNested nesting)
      · intro other hother
        rw [hnested.unique hother]
      · rintro cause rfl
        cases hnested
  | refused cause =>
      refine ⟨iff_of_false (not_settles nofun) fun h => h.2.2 cause rfl, nofun, nofun, ?_⟩
      rintro other hsame
      rw [Reply.refused.inj hsame]

/-- The message for everything in the default collection. -/
def everything : Message :=
  .get "http://localhost:8983/solr/collection1/select"
    [("q", "*:*"), ("start", "0"), ("rows", "10"), ("wt", "json")]

theorem ofRequest_everything : Message.ofRequest {} ⟨{}, none, none⟩ = .ok everything := by
  decide +kernel

/-- An empty list for a header, a text for documents, a numeral and a truth value for counts. -/
def oddReply : Reply :=
  .received 200 "\x7b\"responseHeader\": [], \"response\": \x7b\"docs\": \"ab\",
    \"numFound\": \" 7 \", \"start\": true\x7d\x7d".toUTF8.data.toList

theorem oddReply_settles :
    ((source {} fun _ => pure oddReply).fetch ⟨{}, none, none⟩ ()).1 =
        .ok (.ofRows [] (some 7) 1 10) ∧
      ¬ oddReply.IsGarbled 990 := by
  have hread : oddReply.read 990 everything ({} : Query) = .ok (.ofRows [] (some 7) 1 10) := by
    rfl
  have hanswer : ((source {} fun _ => pure oddReply).fetch ⟨{}, none, none⟩ ()).1 =
      .ok (.ofRows [] (some 7) 1 10) := (fetch_eq ofRequest_everything _ 990 ()).trans hread
  have hspec := fetch_settles_iff ofRequest_everything (fun _ => pure oddReply) 990 ()
  exact ⟨hanswer, (hspec.1.mp (.inl ⟨_, hanswer⟩)).1⟩

def listedReply : Reply :=
  .received 200 "\x7b\"responseHeader\": [1]\x7d".toUTF8.data.toList

theorem listedReply_escapes :
    ((source {} fun _ => pure listedReply).fetch ⟨{}, none, none⟩ ()).1 =
        .error (.reply (.notARecord "list")) ∧
      ¬ Settles ((source {} fun _ => pure listedReply).fetch ⟨{}, none, none⟩ ()).1 := by
  have hread : listedReply.read 990 everything ({} : Query) =
      .error (.reply (.notARecord "list")) := by
    rfl
  have hanswer : ((source {} fun _ => pure listedReply).fetch ⟨{}, none, none⟩ ()).1 =
      .error (.reply (.notARecord "list")) := (fetch_eq ofRequest_everything _ 990 ()).trans hread
  rw [hanswer]
  exact ⟨rfl, not_settles nofun⟩

end CriteriaSearch.Http
