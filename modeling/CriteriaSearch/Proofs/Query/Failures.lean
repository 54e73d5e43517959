import CriteriaSearch.Proofs.Criteria.Clauses
import CriteriaSearch.Proofs.Query.Effects
import CriteriaSearch.Proofs.Value.Text

/-!
# Criteria without a query

Criteria have no query if there is a URL among them that is none, and for no other reason, as long
as every operand that is written can be. An operand that cannot be written fails in its own way, at
the entry where it stands.
-/

namespace CriteriaSearch

namespace Query

/-! ### URLs -/

/-- A parameter that is no window, or a window that is an integer. -/
def IsParam (p : String × String) : Prop :=
  p.1 = "start" ∨ p.1 = "rows" → (Numeral.int? p.2.toList).isSome = true

/-- A URL with a scheme and a host whose windows are integers. -/
def IsRequestUrl (url : String) : Prop :=
  ∃ parts, Url.ofText url = .ok parts ∧ ∀ p ∈ Form.pairs parts.query.toList, IsParam p

theorem windowParam_ok_iff (name s : String) :
    (∃ n, windowParam name s = .ok n) ↔ (Numeral.int? s.toList).isSome = true := by
  unfold windowParam
  cases Numeral.int? s.toList <;> simp

theorem takeParam_ok_iff (q : Query) (p : String × String) :
    (∃ q', takeParam q p = .ok q') ↔ IsParam p := by
  obtain ⟨name, s⟩ := p
  by_cases hname : name = "start" ∨ name = "rows"
  · have hparam : IsParam (name, s) ↔ ∃ n, windowParam name s = .ok n := by
      rw [windowParam_ok_iff]
      exact ⟨fun h => h hname, fun h _ => h⟩
    rw [hparam]
    rcases hname with rfl | rfl <;> cases hwindow : windowParam _ s <;>
      simp [takeParam, hwindow, bind, Except.bind, pure, Except.pure]
  · refine iff_of_true ?_ fun h => absurd h hname
    rw [not_or] at hname
    unfold takeParam
    dsimp only
    split_ifs <;> first | exact ⟨_, rfl⟩ | exact absurd ‹_› hname.1 | exact absurd ‹_› hname.2

theorem foldlM_takeParam_ok_iff (q : Query) (ps : List (String × String)) :
    (∃ q', ps.foldlM takeParam q = .ok q') ↔ ∀ p ∈ ps, IsParam p := by
  induction ps generalizing q with
  | nil => simp [pure, Except.pure]
  | cons p ps ih =>
      rw [List.foldlM_cons, List.forall_mem_cons, ← takeParam_ok_iff q p]
      cases hp : takeParam q p with
      | error e => simp [bind, Except.bind]
      | ok q' => simpa [bind, Except.bind] using ih q'

theorem ofUrl_ok_iff (endpoint url : String) :
    (∃ q, ofUrl endpoint url = .ok q) ↔ IsRequestUrl url := by
  unfold ofUrl IsRequestUrl
  cases hurl : Url.ofText url with
  | error e => simp [Except.mapError, bind, Except.bind]
  | ok parts => simpa [Except.mapError, bind, Except.bind] using foldlM_takeParam_ok_iff _ _

end Query

namespace Criterion

/-! ### Entries -/

/-- An entry with a URL that is none. -/
def HasBadUrl (entry : Criterion) : Prop :=
  entry.field = Control.url ∧
    ¬ Query.IsRequestUrl (if entry.value.isTruthy then entry.value.toText else "")

/-- The operands of a directive that are copied into the query. -/
def copied (entry : Criterion) : List Value :=
  if entry.field = Control.param then entry.values.take 2
  else if [Control.query, Control.url, Control.expand].contains entry.field then [entry.value]
  else []

/-- An entry with an operand that has no text. -/
def IsExtreme (entry : Criterion) : Prop :=
  if entry.isControl then ∃ v ∈ entry.copied, v.isWritable = false
  else entry.operator ≠ .sort ∧ entry.IsStrained

/-- What comes of an entry. -/
inductive Verdict (entry : Criterion) : Except Failure Change → Prop
  | extreme (e : OperandError) (h : entry.IsExtreme) : Verdict entry (.error (.operand e))
  | badUrl (e : CompileError) (h : entry.HasBadUrl) (fine : ¬ entry.IsExtreme) :
      Verdict entry (.error (.compile e))
  | taken (change : Change) (url : ¬ entry.HasBadUrl) (fine : ¬ entry.IsExtreme) :
      Verdict entry (.ok change)

theorem directiveText_eq (v : Value) : Query.directiveText v =
    if v.isWritable then .ok v.toText else .error (.operand (.numeral .tooLong)) := by
  unfold Query.directiveText Clause.plainText Value.written
  cases v.isWritable <;> rfl

theorem verdict_plain {entry : Criterion} (hplain : entry.isControl = false) :
    entry.Verdict entry.change := by
  have hurl : ¬ entry.HasBadUrl := fun h => field_ne hplain (by decide) h.1
  have hextreme : entry.IsExtreme ↔ entry.operator ≠ .sort ∧ entry.IsStrained := by
    rw [IsExtreme, hplain]
    exact Iff.rfl
  unfold change
  rw [hplain]
  by_cases hsort : entry.operator = .sort
  · rw [if_neg (by decide), if_pos hsort]
    exact .taken _ hurl fun h => (hextreme.mp h).1 hsort
  · rw [if_neg (by decide), if_neg hsort]
    have hsettled := entry.clause?_settled
    generalize entry.clause? = result at hsettled
    cases hsettled with
    | failed e h => exact .extreme e (hextreme.mpr ⟨hsort, h⟩)
    | unread h _ => exact .taken _ hurl fun h' => h (hextreme.mp h').2
    | written a h _ => exact .taken _ hurl fun h' => h (hextreme.mp h').2

theorem urlText_eq (v : Value) : Query.urlText v =
    if v.isWritable then .ok (if v.isTruthy then v.toText else "")
    else .error (.operand (.numeral .tooLong)) := by
  unfold Query.urlText
  cases htruthy : v.isTruthy with
  | true => exact directiveText_eq v
  | false => rw [Value.isWritable_of_not_isTruthy htruthy]; rfl

/-- A parameter fails exactly if one of its operands has no text. -/
theorem paramPair_verdict (entry : Criterion) :
    (∃ e, Query.paramPair entry = .error (.operand e) ∧
        ∃ v ∈ entry.values.take 2, v.isWritable = false) ∨
      ∃ pair, Query.paramPair entry = .ok pair ∧
        ¬ ∃ v ∈ entry.values.take 2, v.isWritable = false := by
  unfold Query.paramPair
  match entry.values with
  | [] => exact .inr ⟨none, rfl, by simp⟩
  | [v] =>
      dsimp only
      cases hnull : v.isNull with
      | true => exact .inr ⟨none, rfl, by simp [Value.isWritable_of_isNull hnull]⟩
      | false =>
          rw [if_neg (by decide), directiveText_eq]
          cases hv : v.isWritable with
          | false => exact .inl ⟨_, rfl, v, by simp, hv⟩
          | true => exact .inr ⟨_, rfl, by simp [hv]⟩
  | name :: v :: rest =>
      dsimp only
      rw [directiveText_eq, directiveText_eq]
      cases hname : name.isWritable with
      | false => exact .inl ⟨_, rfl, name, by simp, hname⟩
      | true =>
          cases hv : v.isWritable with
          | false => exact .inl ⟨_, rfl, v, by simp, hv⟩
          | true => exact .inr ⟨_, rfl, by simp [hname, hv]⟩

section Control

variable {entry : Criterion} (hcontrol : entry.isControl = true)

include hcontrol

theorem isExtreme_control_iff : entry.IsExtreme ↔ ∃ v ∈ entry.copied, v.isWritable = false := by
  rw [IsExtreme, if_pos hcontrol]

theorem verdict_url (hfield : entry.field = Control.url) : entry.Verdict entry.controlChange := by
  have hcopied : entry.copied = [entry.value] := by
    unfold copied
    rw [hfield]
    rfl
  have hextreme : entry.IsExtreme ↔ entry.value.isWritable = false := by
    rw [isExtreme_control_iff hcontrol, hcopied]
    simp
  have hchange : entry.controlChange = (do
      return .restart (← (Query.ofUrl "" (← Query.urlText entry.value)).mapError .compile)) := by
    unfold controlChange
    rw [hfield]
    rfl
  rw [hchange, urlText_eq]
  cases hwritable : entry.value.isWritable with
  | false => exact .extreme _ (hextreme.mpr hwritable)
  | true =>
      have hfine : ¬ entry.IsExtreme := by
        rw [hextreme, hwritable]
        exact Bool.noConfusion
      have hurl := Query.ofUrl_ok_iff "" (if entry.value.isTruthy then entry.value.toText else "")
      rw [if_pos rfl]
      dsimp only [bind, Except.bind]
      cases hmade : Query.ofUrl "" (if entry.value.isTruthy then entry.value.toText else "") with
      | error e =>
          refine .badUrl e ⟨hfield, fun h => ?_⟩ hfine
          obtain ⟨q, hq⟩ := hurl.mpr h
          rw [hmade] at hq
          cases hq
      | ok made => exact .taken _ (fun h => h.2 (hurl.mp ⟨made, hmade⟩)) hfine

/-- The directives with one text. -/
theorem verdict_text (hurl : entry.field ≠ Control.url) (hcopied : entry.copied = [entry.value])
    (f : String → Change) :
    entry.Verdict (if entry.value.isNull then .ok .nothing
      else (Query.directiveText entry.value).map f) := by
  have hextreme : entry.IsExtreme ↔ entry.value.isWritable = false := by
    rw [isExtreme_control_iff hcontrol, hcopied]
    simp
  cases hnull : entry.value.isNull with
  | true =>
      refine .taken _ (fun h => hurl h.1) fun h => ?_
      rw [hextreme, Value.isWritable_of_isNull hnull] at h
      cases h
  | false =>
      rw [if_neg (by decide), directiveText_eq]
      cases hwritable : entry.value.isWritable with
      | false => exact .extreme _ (hextreme.mpr hwritable)
      | true =>
          refine .taken _ (fun h => hurl h.1) fun h => ?_
          rw [hextreme, hwritable] at h
          cases h

theorem verdict_param (hfield : entry.field = Control.param) :
    entry.Verdict entry.controlChange := by
  have hurl : ¬ entry.HasBadUrl := by
    rintro ⟨h, -⟩
    rw [hfield] at h
    exact absurd h (by decide)
  have hextreme : entry.IsExtreme ↔ ∃ v ∈ entry.values.take 2, v.isWritable = false := by
    rw [isExtreme_control_iff hcontrol, copied, if_pos hfield]
  have hchange : entry.controlChange =
      (Query.paramPair entry).map fun pair => pair.elim .nothing fun p => .param p.1 p.2 := by
    unfold controlChange
    rw [hfield]
    rfl
  rw [hchange]
  have hpair := paramPair_verdict entry
  rw [← hextreme] at hpair
  rcases hpair with ⟨e, hpair, h⟩ | ⟨pair, hpair, h⟩
  · rw [hpair]
    exact .extreme e h
  · rw [hpair]
    exact .taken _ hurl h

theorem verdict_control : entry.Verdict entry.change := by
  have hchange : entry.change = entry.controlChange := by
    rw [change, if_pos hcontrol]
  rw [hchange]
  by_cases hurl : entry.field = Control.url
  · exact verdict_url hcontrol hurl
  by_cases hparam : entry.field = Control.param
  · exact verdict_param hcontrol hparam
  have hcopied : entry.copied =
      if entry.field = Control.query ∨ entry.field = Control.expand then [entry.value] else [] := by
    simp [copied, hurl, hparam]
  unfold controlChange
  dsimp only
  by_cases hquery : entry.field = Control.query
  · rw [if_pos hquery]
    exact verdict_text hcontrol hurl (by rw [hcopied, if_pos (.inl hquery)]) .query
  by_cases hexpand : entry.field = Control.expand
  · rw [if_neg hquery, if_neg hurl, if_neg hparam, if_pos hexpand]
    exact verdict_text hcontrol hurl (by rw [hcopied, if_pos (.inr hexpand)]) .expansion
  · rw [if_neg hquery, if_neg hurl, if_neg hparam, if_neg hexpand]
    refine .taken _ (fun h => hurl h.1) fun h => ?_
    rw [isExtreme_control_iff hcontrol, hcopied, if_neg (not_or.mpr ⟨hquery, hexpand⟩)] at h
    obtain ⟨v, hv, -⟩ := h
    cases hv

end Control

theorem verdict_change (entry : Criterion) : entry.Verdict entry.change := by
  cases h : entry.isControl with
  | false => exact verdict_plain h
  | true => exact verdict_control h

/-- An entry that is taken. -/
def IsFine (entry : Criterion) : Prop := ¬ entry.HasBadUrl ∧ ¬ entry.IsExtreme

theorem isFine_of_change {entry : Criterion} (h : ∃ change, entry.change = .ok change) :
    entry.IsFine := by
  obtain ⟨change, hchange⟩ := h
  have hverdict := entry.verdict_change
  rw [hchange] at hverdict
  cases hverdict with
  | taken _ url fine => exact ⟨url, fine⟩

end Criterion

namespace Query

/-! ### Criteria -/

/-- Criteria fail as criteria that cannot be compiled or not at all, and they do so exactly if there
is a URL among them that is none. -/
def FailsOnlyForUrls (settings : Settings) (criteria : Criteria) : Prop :=
  ((∃ q, compile settings criteria = .ok q) ∨
      ∃ e, compile settings criteria = .error (.compile e)) ∧
    ((∃ e, compile settings criteria = .error (.compile e)) ↔
      ∃ entry ∈ criteria.entries, entry.HasBadUrl)

/-- A first handler entry whose operand has a text, or none. -/
def HasHandlerText (criteria : Criteria) : Prop :=
  ∀ entry, criteria.entries.find? (·.field == Control.handler) = some entry →
    entry.value.isWritable = true

theorem endpointFor_cases (settings : Settings) (criteria : Criteria) :
    (HasHandlerText criteria ∧ ∃ endpoint, endpointFor settings criteria = .ok endpoint) ∨
      (¬ HasHandlerText criteria ∧ ∃ e, endpointFor settings criteria = .error (.operand e)) := by
  unfold HasHandlerText endpointFor
  cases hfind : criteria.entries.find? (·.field == Control.handler) with
  | none => exact .inl ⟨fun _ h => (by cases h), _, rfl⟩
  | some entry =>
      have htext : (∀ other, some entry = some other → other.value.isWritable = true) ↔
          entry.value.isWritable = true := by simp
      rw [htext]
      dsimp only
      cases hnull : entry.value.isNull with
      | true => exact .inl ⟨Value.isWritable_of_isNull hnull, _, rfl⟩
      | false =>
          rw [if_neg (by decide), Criterion.directiveText_eq]
          cases hwritable : entry.value.isWritable with
          | true => exact .inl ⟨rfl, _, rfl⟩
          | false => exact .inr ⟨Bool.noConfusion, _, rfl⟩

/-- Entries of which every one with an operand that has no text stands behind a URL that is none. -/
def AreCovered (entries : List Criterion) : Prop :=
  ∀ before entry after, entries = before ++ entry :: after → entry.IsExtreme →
    ∃ url ∈ before, url.HasBadUrl

/-- All entries are taken, or the first one that is not decides how they fail. -/
inductive Verdicts (entries : List Criterion) : Except Failure (List Change) → Prop
  | taken (changes : List Change) (fine : ∀ entry ∈ entries, entry.IsFine) :
      Verdicts entries (.ok changes)
  | badUrl {before after : List Criterion} {url : Criterion} (e : CompileError)
      (split : entries = before ++ url :: after) (fine : ∀ entry ∈ before, entry.IsFine)
      (bad : url.HasBadUrl) (written : ¬ url.IsExtreme) : Verdicts entries (.error (.compile e))
  | extreme {before after : List Criterion} {entry : Criterion} (e : OperandError)
      (split : entries = before ++ entry :: after) (fine : ∀ entry ∈ before, entry.IsFine)
      (unwritten : entry.IsExtreme) : Verdicts entries (.error (.operand e))

theorem verdicts_mapM (entries : List Criterion) :
    Verdicts entries (entries.mapM Criterion.change) := by
  cases hchanges : entries.mapM Criterion.change with
  | ok changes =>
      exact .taken changes fun entry hentry =>
        Criterion.isFine_of_change (exists_ok_of_mapM hchanges hentry)
  | error f =>
      obtain ⟨before, first, after, hsplit, hbefore, hfirst⟩ := mapM_eq_error_iff.mp hchanges
      have hfine : ∀ entry ∈ before, entry.IsFine :=
        fun entry hentry => Criterion.isFine_of_change (hbefore entry hentry)
      have hverdict := first.verdict_change
      rw [hfirst] at hverdict
      cases hverdict with
      | extreme e h => exact .extreme e hsplit hfine h
      | badUrl e h fine => exact .badUrl e hsplit hfine h fine

theorem areCovered_of_fine {entries : List Criterion} (h : ∀ entry ∈ entries, entry.IsFine) :
    AreCovered entries := by
  rintro before entry after rfl hextreme
  exact absurd hextreme (h entry (List.mem_append_right before List.mem_cons_self)).2

/-- Behind a URL that is none everything is covered. -/
theorem areCovered_of_badUrl {before after : List Criterion} {url : Criterion}
    (hfine : ∀ entry ∈ before, entry.IsFine) (hbad : url.HasBadUrl) (hwritten : ¬ url.IsExtreme) :
    AreCovered (before ++ url :: after) := by
  -- The entry is the URL itself, or stands behind it, or among the entries before it.
  intro front entry rest hsplit hextreme
  rcases List.append_eq_append_iff.mp hsplit with ⟨middle, rfl, hmiddle⟩ | ⟨middle, rfl, hmiddle⟩
  · cases middle with
    | nil =>
        obtain ⟨rfl, -⟩ := List.cons.inj hmiddle
        exact absurd hextreme hwritten
    | cons first others =>
        obtain ⟨rfl, -⟩ := List.cons.inj hmiddle
        exact ⟨url, List.mem_append_right before List.mem_cons_self, hbad⟩
  · cases middle with
    | nil =>
        obtain ⟨rfl, -⟩ := List.cons.inj hmiddle
        exact absurd hextreme hwritten
    | cons first others =>
        obtain ⟨rfl, -⟩ := List.cons.inj hmiddle
        exact absurd hextreme (hfine entry (List.mem_append_right front List.mem_cons_self)).2

/-- Criteria fail as they should exactly if the operand of the handler has a text, and every entry
with an operand that has none stands behind a URL that is none. -/
theorem failsOnlyForUrls_iff (settings : Settings) (criteria : Criteria) :
    FailsOnlyForUrls settings criteria ↔ HasHandlerText criteria ∧ AreCovered criteria.entries := by
  unfold FailsOnlyForUrls
  rcases endpointFor_cases settings criteria with
    ⟨hhandler, endpoint, hendpoint⟩ | ⟨hhandler, e, hendpoint⟩
  · rw [compile_of_endpoint hendpoint]
    have hverdicts := verdicts_mapM criteria.entries
    generalize criteria.entries.mapM Criterion.change = result at hverdicts
    cases hverdicts with
    | taken changes fine =>
        have hgood : ¬ ∃ entry ∈ criteria.entries, entry.HasBadUrl := by
          rintro ⟨entry, hentry, hbad⟩
          exact (fine entry hentry).1 hbad
        simp [Except.map, hhandler, areCovered_of_fine fine, hgood]
    | @badUrl before after url e split fine bad written =>
        have hcovered : AreCovered (before ++ url :: after) :=
          areCovered_of_badUrl fine bad written
        have hmem : ∃ entry ∈ criteria.entries, entry.HasBadUrl :=
          ⟨url, split ▸ List.mem_append_right before List.mem_cons_self, bad⟩
        rw [← split] at hcovered
        simp [Except.map, hhandler, hcovered, hmem]
    | @extreme before after entry e split fine unwritten =>
        have hbare : ¬ AreCovered criteria.entries := by
          intro hcovered
          obtain ⟨url, hurl, hbad⟩ := hcovered before entry after split unwritten
          exact (fine url hurl).1 hbad
        simp [Except.map, hbare]
  · rw [compile_of_no_endpoint hendpoint]
    simp [hhandler]

/-- From the first day of the calendar on, with a bound that is moved out of it. -/
def sinceYearOne : Criteria :=
  { entries := [⟨"released", .dateTime, .greaterEqual, [.text "0001-01-01"], .and⟩] }

theorem sinceYearOne_fails : compile {} sinceYearOne = .error (.operand .outOfCalendar) ∧
    ¬ FailsOnlyForUrls {} sinceYearOne := by
  have hfails : compile {} sinceYearOne = .error (.operand .outOfCalendar) := by decide +kernel
  refine ⟨hfails, fun ⟨hreturns, _⟩ => ?_⟩
  rw [hfails] at hreturns
  rcases hreturns with ⟨q, hq⟩ | ⟨e, he⟩
  · cases hq
  · cases he

end Query

end CriteriaSearch
