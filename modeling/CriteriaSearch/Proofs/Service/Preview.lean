import CriteriaSearch.Proofs.Query.Line
import CriteriaSearch.Proofs.Search.Gathering
import CriteriaSearch.Service.Api

/-!
# The preview of a search

The service shows the query of a body without a search, and searches with the query of a body. Both
refuse the same bodies with the same words. The query that is shown, as far as the framework shows
its parts, is the one that is fetched first.
-/

namespace CriteriaSearch

/-! ### Queries -/

namespace Query

theorem compile_congr {settings settings' : Settings}
    (hhandler : settings.requestHandler = settings'.requestHandler)
    (hecho : settings.echoParams = settings'.echoParams) (criteria : Criteria) :
    compile settings criteria = compile settings' criteria := by
  unfold compile endpointFor withEcho
  rw [hhandler, hecho]

end Query

/-! ### First fetches -/

namespace Engine

variable {σ : Type} (x : Engine σ)

theorem expand_writes (t : Table) (e : Expansion) :
    x.Writes (x.journaled.expand t e) fun _ _ => True :=
  (x.expandInPlace_writes t e).bind fun _ _ _ => .pure trivial

/-- A search fetches the page of its query before anything else. -/
theorem search_writes {criteria : Criteria} {q : Query}
    (h : Query.compile x.settings criteria = .ok q) (w : Window) :
    x.Writes (x.journaled.search criteria w) fun exchanges _ =>
      ∃ answer rest, exchanges = ⟨⟨q, w.offset, w.limit⟩, answer⟩ :: rest := by
  have hpage : x.journaled.fetchPage criteria w =
      x.journaled.fetchAs .searchFailed ⟨q, w.offset, w.limit⟩ := by
    have hcompile : Query.compile x.journaled.settings criteria = .ok q := h
    rw [fetchPage, hcompile]
  unfold search
  rw [hpage]
  refine (x.fetchAs_writes .searchFailed ⟨q, w.offset, w.limit⟩).bind fun xs result hresult => ?_
  obtain ⟨answer, rfl, -⟩ := hresult
  cases result with
  | error f => exact .pure ⟨answer, [], rfl⟩
  | ok t =>
      dsimp only
      split
      · exact .pure ⟨answer, [], rfl⟩
      · split
        · exact .pure ⟨answer, [], rfl⟩
        · rename_i e _
          refine (x.expand_writes t e).bind fun ys report _ => .pure ⟨answer, ys, ?_⟩
          rw [List.append_nil, List.singleton_append]

theorem search_of_no_query (x : Engine σ) {criteria : Criteria} {f : Failure}
    (h : Query.compile x.settings criteria = .error f) (w : Window) :
    x.search criteria w = pure (.error f) := by
  unfold search fetchPage
  rw [h]
  rfl

end Engine

namespace Api

/-! ### Frameworks -/

/-- Values that are JSON already: no numbers but integers, and no fields with names that are
omitted. -/
inductive IsPlain (isOmitted : String → Bool) : Value → Prop
  | null : IsPlain isOmitted .null
  | bool (b : Bool) : IsPlain isOmitted (.bool b)
  | int (n : Int) : IsPlain isOmitted (.int n)
  | text (s : String) : IsPlain isOmitted (.text s)
  | list {items : List Value} (plain : ∀ v ∈ items, IsPlain isOmitted v) :
      IsPlain isOmitted (.list items)
  | record {fields : Row} (kept : ∀ p ∈ fields, isOmitted p.1 = false)
      (plain : ∀ p ∈ fields, IsPlain isOmitted p.2) : IsPlain isOmitted (.record fields)

/-- The names of the parts of a preview. -/
def partNames : List String :=
  ["compiled", "query_string", "query", "filters", "sort", "field", "direction", "offset", "limit",
    "endpoint", "params", "expansion"]

/-- What the service relies on: a plain value is answered as it is, and parts of a preview are not
omitted. -/
structure Framework.Lawful (w : Framework) (isOmitted : String → Bool) : Prop where
  encode : ∀ {v body}, IsPlain isOmitted v → w.encode v = some body → body = v
  parts : ∀ name ∈ partNames, isOmitted name = false

variable {isOmitted : String → Bool}

theorem isPlain_texts (texts : List String) : IsPlain isOmitted (.list (texts.map .text)) := by
  refine .list fun v hv => ?_
  obtain ⟨s, -, rfl⟩ := List.mem_map.mp hv
  exact .text s

theorem isPlain_sort (hparts : ∀ name ∈ partNames, isOmitted name = false)
    (sort : List (String × Direction)) :
    IsPlain isOmitted (.list (sort.map fun (field, d) =>
      .record [("field", .text field), ("direction", .text d.name)])) := by
  refine .list fun v hv => ?_
  obtain ⟨⟨field, d⟩, -, rfl⟩ := List.mem_map.mp hv
  refine .record ?_ ?_
  · simpa using ⟨hparts "field" (by decide), hparts "direction" (by decide)⟩
  · simpa using ⟨IsPlain.text field, IsPlain.text d.name⟩

theorem isPlain_params {params : Named String} (h : ∀ p ∈ params, isOmitted p.1 = false) :
    IsPlain isOmitted (.record (params.map fun (name, s) => (name, .text s))) := by
  refine .record (fun q hq => ?_) fun q hq => ?_
  · obtain ⟨p, hp, rfl⟩ := List.mem_map.mp hq
    exact h p hp
  · obtain ⟨⟨name, s⟩, -, rfl⟩ := List.mem_map.mp hq
    exact .text s

theorem isPlain_toRecord (hparts : ∀ name ∈ partNames, isOmitted name = false) {q : Query}
    (h : ∀ p ∈ q.params, isOmitted p.1 = false) : IsPlain isOmitted q.toRecord := by
  have hexpansion : IsPlain isOmitted ((q.expansion.map Value.text).getD .null) := by
    cases q.expansion with
    | none => exact .null
    | some s => exact .text s
  refine .record ?_ ?_
  · simp only [List.forall_mem_cons]
    refine ⟨?_, ?_, ?_, ?_, ?_, ?_, ?_, ?_, List.forall_mem_nil _⟩ <;> exact hparts _ (by decide)
  · simp only [List.forall_mem_cons]
    exact ⟨.text _, isPlain_texts _, isPlain_sort hparts _, .int _, .int _, .text _,
      isPlain_params h, hexpansion, List.forall_mem_nil _⟩

theorem isPlain_previewRecord (hparts : ∀ name ∈ partNames, isOmitted name = false) {q : Query}
    (h : ∀ p ∈ q.params, isOmitted p.1 = false) (line : String) :
    IsPlain isOmitted (previewRecord q line) := by
  refine .record ?_ ?_
  · simpa using ⟨hparts "compiled" (by decide), hparts "query_string" (by decide)⟩
  · simpa using ⟨isPlain_toRecord hparts h, IsPlain.text line⟩

/-! ### Queries of bodies -/

def queryOfBody (env : Environment) (b : Body) : Except Failure Query := do
  let criteria ← b.criteria
  let settings ← Settings.resolve env
  Query.compile settings criteria

/-- How far a body comes on the way to its query. -/
inductive Reaches (env : Environment) (b : Body) : Except Failure Query → Prop
  | noCriteria {f : Failure} (criteria_eq : b.criteria = .error f) : Reaches env b (.error f)
  | noSettings {criteria : Criteria} {f : Failure} (criteria_eq : b.criteria = .ok criteria)
      (settings_eq : Settings.resolve env = .error f) : Reaches env b (.error f)
  | compiled {criteria : Criteria} {settings : Settings} {result : Except Failure Query}
      (criteria_eq : b.criteria = .ok criteria) (settings_eq : Settings.resolve env = .ok settings)
      (result_eq : Query.compile settings criteria = result) : Reaches env b result

theorem reaches_queryOfBody (env : Environment) (b : Body) : Reaches env b (queryOfBody env b) := by
  unfold queryOfBody
  cases hcriteria : b.criteria with
  | error f => exact .noCriteria hcriteria
  | ok criteria =>
      cases hsettings : Settings.resolve env with
      | error f => exact .noSettings hcriteria hsettings
      | ok settings => exact .compiled hcriteria hsettings rfl

theorem compileBody_of_no_query {env : Environment} {b : Body} {f : Failure}
    (h : queryOfBody env b = .error f) : compileBody env b = .error f := by
  have hreaches := reaches_queryOfBody env b
  rw [h] at hreaches
  unfold compileBody
  cases hreaches with
  | noCriteria criteria_eq =>
      rw [criteria_eq]
      rfl
  | noSettings criteria_eq settings_eq =>
      rw [criteria_eq, settings_eq]
      rfl
  | compiled criteria_eq settings_eq result_eq =>
      simp only [criteria_eq, settings_eq, result_eq, bind, Except.bind]

theorem compileBody_of_query {env : Environment} {b : Body} {q : Query}
    (h : queryOfBody env b = .ok q) : ∃ line, compileBody env b = .ok (previewRecord q line) := by
  have hreaches := reaches_queryOfBody env b
  rw [h] at hreaches
  cases hreaches with
  | compiled criteria_eq settings_eq result_eq =>
      obtain ⟨line, hline⟩ := Query.line_of_compile result_eq
      refine ⟨line, ?_⟩
      simp only [compileBody, criteria_eq, settings_eq, result_eq, hline, bind, Except.bind, pure,
        Except.pure]

/-! ### Both endpoints -/

/-- A collection that is asked for changes neither the handler nor the parameters of queries. -/
theorem resolve_collection (env : Environment) (collection : Option String) :
    ∃ chosen, Settings.resolve env { collection } =
      (Settings.resolve env).map fun settings => { settings with collection := chosen } := by
  refine ⟨(Settings.choose env collection Settings.collectionVariable).getD "collection1", ?_⟩
  unfold Settings.resolve
  dsimp only
  cases Settings.resolveTimeout env .null <;> rfl

theorem encode_of_answer {w : Framework} {v body : Value} (h : w.answer v = .ok body) :
    w.encode v = some body := by
  unfold Framework.answer at h
  cases hencode : w.encode v with
  | none =>
      rw [hencode] at h
      cases h
  | some encoded =>
      rw [hencode] at h
      rw [Answer.ok.inj h]

theorem status_answer_ne (w : Framework) (v : Value) : (w.answer v).status ≠ 400 := by
  unfold Framework.answer
  split
  · nofun
  · nofun

theorem ofFailure_ne_ok (f : Failure) (v : Value) : Answer.ofFailure f ≠ .ok v := by
  unfold Answer.ofFailure
  split
  · exact Answer.noConfusion
  · split <;> exact Answer.noConfusion

def ofResult (w : Framework) : Except Failure Table → Answer
  | .ok t => w.answer (tableRecord t)
  | .error f => .ofFailure f

variable {σ : Type} {w : Framework} {env : Environment} {text : String} {b : Body}

/-- The exchanges that a search for a body has with its source. -/
def fetches (w : Framework) (source : Settings → Source σ) (env : Environment) (text : String)
    (s : σ) : List Exchange :=
  (search w (fun settings => (source settings).journaled) env text (s, [])).2.2

/-- A search is one of an engine that compiles criteria as the preview does. -/
theorem exists_search_eq {criteria : Criteria} {settings : Settings}
    (hbody : w.read text = .ok b) (hcriteria : b.criteria = .ok criteria)
    (hsettings : Settings.resolve env = .ok settings) (source : Settings → Source σ) (s : σ) :
    ∃ x : Engine σ, Query.compile x.settings criteria = Query.compile settings criteria ∧
      (search w source env text s).1.answer = ofResult w (x.search criteria {} s).1 ∧
      fetches w source env text s = (x.journaled.search criteria {} (s, [])).2.2 := by
  obtain ⟨chosen, hchosen⟩ := resolve_collection env b.collection
  rw [hsettings] at hchosen
  let found : Settings := { settings with collection := chosen }
  -- The source may keep a journal or not, so its states are left open here.
  have hsearch : ∀ {τ : Type} (source : Settings → Source τ), search w source env text = do
      let x : Engine τ := { source := source found, settings := found }
      let answer := ofResult w (← x.search criteria {})
      return { answer, opened := some b.collection } := by
    intro τ source
    unfold search
    rw [hbody]
    dsimp only
    rw [hcriteria]
    dsimp only
    rw [hchosen]
    rfl
  refine ⟨{ source := source found, settings := found }, Query.compile_congr rfl rfl criteria,
    ?_, ?_⟩
  · rw [hsearch]
    rfl
  · unfold fetches
    rw [hsearch]
    rfl

theorem search_of_no_query (hbody : w.read text = .ok b) {f : Failure}
    (h : queryOfBody env b = .error f) (source : Settings → Source σ) (s : σ) :
    (search w source env text s).1.answer = .ofFailure f ∧ fetches w source env text s = [] := by
  have hreaches := reaches_queryOfBody env b
  rw [h] at hreaches
  cases hreaches with
  | noCriteria criteria_eq =>
      unfold fetches search
      rw [hbody]
      dsimp only
      rw [criteria_eq]
      exact ⟨rfl, rfl⟩
  | noSettings criteria_eq settings_eq =>
      obtain ⟨chosen, hchosen⟩ := resolve_collection env b.collection
      rw [settings_eq] at hchosen
      unfold fetches search
      rw [hbody]
      dsimp only
      rw [criteria_eq]
      dsimp only
      rw [hchosen]
      exact ⟨rfl, rfl⟩
  | compiled criteria_eq settings_eq result_eq =>
      obtain ⟨x, hx, hanswer, hjournal⟩ := exists_search_eq hbody criteria_eq settings_eq source s
      rw [hanswer, hjournal, x.search_of_no_query (hx.trans result_eq),
        x.journaled.search_of_no_query (hx.trans result_eq)]
      exact ⟨rfl, rfl⟩

theorem fetches_of_query (hbody : w.read text = .ok b) {q : Query} (h : queryOfBody env b = .ok q)
    (source : Settings → Source σ) (s : σ) :
    ∃ answer rest, fetches w source env text s = ⟨⟨q, none, none⟩, answer⟩ :: rest := by
  have hreaches := reaches_queryOfBody env b
  rw [h] at hreaches
  cases hreaches with
  | compiled criteria_eq settings_eq result_eq =>
      obtain ⟨x, hx, -, hjournal⟩ := exists_search_eq hbody criteria_eq settings_eq source s
      obtain ⟨exchanges, hwritten, -, answer, rest, rfl⟩ :=
        x.search_writes (hx.trans result_eq) {} s []
      refine ⟨answer, rest, ?_⟩
      rw [hjournal, hwritten, List.nil_append]

/-- What is shown for a body is what a search does: a query that is shown is the first one that is
fetched, in no other window than its own, and shown as a whole unless a parameter is omitted; a body
that is refused is refused by a search in the same words, without a fetch. -/
structure Previews (w : Framework) (isOmitted : String → Bool) (source : Settings → Source σ)
    (env : Environment) (text : String) (s : σ) : Prop where
  shown : ∀ body, compile w env text = .ok body → ∃ q line answer rest,
    fetches w source env text s = ⟨⟨q, none, none⟩, answer⟩ :: rest ∧
      w.encode (previewRecord q line) = some body ∧
      ((∀ p ∈ q.params, isOmitted p.1 = false) → body = previewRecord q line)
  refused : (compile w env text).status = 400 →
    (search w source env text s).1.answer = compile w env text ∧ fetches w source env text s = []

theorem previews_of_rejection {r : Rejection} (hbody : w.read text = .error r)
    (source : Settings → Source σ) (s : σ) : Previews w isOmitted source env text s := by
  have hcompile : compile w env text = .rejected r := by
    unfold compile
    rw [hbody]
  have hsearch : ∀ {τ : Type} (source : Settings → Source τ),
      search w source env text = pure { answer := .rejected r } := by
    intro τ source
    unfold search
    rw [hbody]
  refine ⟨fun body hok => ?_, fun _ => ?_⟩
  · rw [hcompile] at hok
    cases hok
  · rw [hcompile, fetches, hsearch, hsearch]
    exact ⟨rfl, rfl⟩

theorem previews_of_no_query (hbody : w.read text = .ok b) {f : Failure}
    (h : queryOfBody env b = .error f) (source : Settings → Source σ) (s : σ) :
    Previews w isOmitted source env text s := by
  have hcompile : compile w env text = .ofFailure f := by
    unfold compile
    rw [hbody]
    dsimp only
    rw [compileBody_of_no_query h]
  obtain ⟨hanswer, hfetches⟩ := search_of_no_query hbody h source s
  refine ⟨fun body hok => ?_, fun _ => ⟨hanswer.trans hcompile.symm, hfetches⟩⟩
  rw [hcompile] at hok
  exact absurd hok (ofFailure_ne_ok f body)

theorem previews_of_query (hw : w.Lawful isOmitted) (hbody : w.read text = .ok b) {q : Query}
    (h : queryOfBody env b = .ok q) (source : Settings → Source σ) (s : σ) :
    Previews w isOmitted source env text s := by
  obtain ⟨line, hline⟩ := compileBody_of_query h
  obtain ⟨answer, rest, hfetches⟩ := fetches_of_query hbody h source s
  have hcompile : compile w env text = w.answer (previewRecord q line) := by
    unfold compile
    rw [hbody]
    dsimp only
    rw [hline]
  refine ⟨fun body hok => ⟨q, line, answer, rest, hfetches, ?_⟩, fun hstatus => ?_⟩
  · have hencode := encode_of_answer (hcompile.symm.trans hok)
    exact ⟨hencode, fun hparams => hw.encode (isPlain_previewRecord hw.parts hparams line) hencode⟩
  · rw [hcompile] at hstatus
    exact absurd hstatus (status_answer_ne w _)

/-- Whatever is shown or refused without a search is fetched or refused by one. -/
theorem compile_previews (hw : w.Lawful isOmitted) (source : Settings → Source σ)
    (env : Environment) (text : String) (s : σ) : Previews w isOmitted source env text s := by
  cases hbody : w.read text with
  | error r => exact previews_of_rejection hbody source s
  | ok b =>
      cases hquery : queryOfBody env b with
      | error f => exact previews_of_no_query hbody hquery source s
      | ok q => exact previews_of_query hw hbody hquery source s

/-- A framework that knows one body by its text, and answers with values as they are. -/
def Framework.ofBody (known : String) (b : Body) : Framework where
  read text :=
    if text = known then .ok b
    else .error ⟨400, .text "There was an error parsing the body"⟩
  encode := some

/-- Names that no answer has. -/
def isHidden (name : String) : Bool := "_sa".toList.isPrefixOf name.toList

theorem lawful_ofBody (known : String) (b : Body) : (Framework.ofBody known b).Lawful isHidden :=
  ⟨fun _ h => (Option.some.inj h).symm, by decide⟩

def recent : String := "\x7b\"filters\": \"year>=2020\", \"params\": \x7b\"wt\": \"xml\"\x7d\x7d"

def recentBody : Body := { filters := some "year>=2020", params := [("wt", "xml")] }

def recentQuery : Query := { filters := ["year:[2020 TO *]"], params := [("wt", "xml")] }

/-- A source without rows. -/
def barren (_ : Settings) : Source Unit := .ofFunction fun _ => .ok {}

theorem recent_previewed :
    ∃ line, compile (.ofBody recent recentBody) [] recent =
        .ok (previewRecord recentQuery line) ∧
      ∃ q answer rest, fetches (.ofBody recent recentBody) barren [] recent () =
        ⟨⟨q, none, none⟩, answer⟩ :: rest ∧ q.toRecord = recentQuery.toRecord := by
  have hquery : queryOfBody [] recentBody = .ok recentQuery := by decide +kernel
  obtain ⟨line, hline⟩ := compileBody_of_query hquery
  have hread : (Framework.ofBody recent recentBody).read recent = .ok recentBody := by
    simp [Framework.ofBody]
  have hcompile : compile (.ofBody recent recentBody) [] recent =
      .ok (previewRecord recentQuery line) := by
    unfold compile
    rw [hread]
    dsimp only
    rw [hline]
    rfl
  have hpreviews := compile_previews (lawful_ofBody recent recentBody) barren [] recent ()
  obtain ⟨q, line', answer, rest, hfetches, hencode, -⟩ := hpreviews.shown _ hcompile
  have hrecord : q.toRecord = recentQuery.toRecord :=
    congrArg Prod.snd (List.cons.inj (Value.record.inj (Option.some.inj hencode))).1
  exact ⟨line, hcompile, q, answer, rest, hfetches, hrecord⟩

end Api

end CriteriaSearch
