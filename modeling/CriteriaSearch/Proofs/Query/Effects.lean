import CriteriaSearch.Proofs.Lists
import CriteriaSearch.Query.Compile

/-!
# Entries as changes of a query

Whether an entry can be taken into a query does not depend on the query, and neither does what it
changes there. So the entries of criteria become changes first, all of them or none, and the changes
are then made one after the other.
-/

namespace CriteriaSearch

/-- What an entry changes in a query. -/
inductive Change where
  | nothing
  | query (s : String)
  /-- All parts but the endpoint and the expansion are replaced. -/
  | restart (made : Query)
  | param (name s : String)
  | expansion (s : String)
  | order (field : String) (d : Direction)
  | filter (clause : String)

namespace Change

def apply (q : Query) : Change → Query
  | nothing => q
  | query s => { q with query := s }
  | restart made => { made with endpoint := q.endpoint, expansion := q.expansion }
  | param name s => { q with params := q.params.set name s }
  | expansion s => { q with expansion := some s }
  | order field d => { q with sort := q.sort ++ [(field, d)] }
  | filter clause => { q with filters := q.filters ++ [clause] }

def query? : Change → Option String
  | query s => some s
  | _ => none

def expansion? : Change → Option String
  | expansion s => some s
  | _ => none

def order? : Change → Option (String × Direction)
  | order field d => some (field, d)
  | _ => none

def filter? : Change → Option String
  | filter clause => some clause
  | _ => none

def isRestart : Change → Bool
  | restart _ => true
  | _ => false

end Change

namespace Criterion

/-- The change that a directive makes. -/
def controlChange (entry : Criterion) : Except Failure Change :=
  let v := entry.value
  if entry.field = Control.query then
    if v.isNull then .ok .nothing else (Query.directiveText v).map .query
  else if entry.field = Control.url then do
    return .restart (← (Query.ofUrl "" (← Query.urlText v)).mapError .compile)
  else if entry.field = Control.param then
    (Query.paramPair entry).map fun pair => pair.elim .nothing fun p => .param p.1 p.2
  else if entry.field = Control.expand then
    if v.isNull then .ok .nothing else (Query.directiveText v).map .expansion
  else .ok .nothing

/-- The change that an entry makes. -/
def change (entry : Criterion) : Except Failure Change :=
  if entry.isControl then entry.controlChange
  else if entry.operator = .sort then .ok (.order entry.field (.ofValue entry.value))
  else (entry.clause?.mapError .operand).map fun clause => clause.elim .nothing .filter

end Criterion

namespace Query

/-! ### URLs -/

theorem takeParam_endpoint (q : Query) (endpoint : String) (p : String × String) :
    takeParam { q with endpoint } p = (takeParam q p).map fun q => { q with endpoint } := by
  unfold takeParam
  dsimp only
  split_ifs
  · rfl
  · rfl
  · rfl
  · cases windowParam p.1 p.2 <;> rfl
  · cases windowParam p.1 p.2 <;> rfl
  · rfl

theorem foldlM_takeParam_endpoint (ps : List (String × String)) (q : Query) (endpoint : String) :
    ps.foldlM takeParam { q with endpoint } =
      (ps.foldlM takeParam q).map fun q => { q with endpoint } := by
  induction ps generalizing q with
  | nil => rfl
  | cons p ps ih =>
      rw [List.foldlM_cons, List.foldlM_cons, takeParam_endpoint]
      cases takeParam q p with
      | error e => rfl
      | ok q => exact ih q

/-- The endpoint is kept aside while a URL is read. -/
theorem ofUrl_endpoint (endpoint url : String) :
    ofUrl endpoint url = (ofUrl "" url).map fun q => { q with endpoint } := by
  unfold ofUrl
  cases (Url.ofText url).mapError (CompileError.badUrl url) with
  | error e => rfl
  | ok parts => exact foldlM_takeParam_endpoint _ { endpoint := "" } endpoint

/-! ### Entries -/

theorem applyControl_eq (q : Query) (entry : Criterion) :
    q.applyControl entry = entry.controlChange.map (Change.apply q) := by
  unfold applyControl Criterion.controlChange
  dsimp only
  split_ifs
  · rfl
  · cases directiveText entry.value <;> rfl
  · cases urlText entry.value with
    | error f => rfl
    | ok url =>
        have hurl := ofUrl_endpoint q.endpoint url
        simp only [bind, Except.bind, hurl]
        cases ofUrl "" url <;> rfl
  · rcases paramPair entry with f | _ | p <;> rfl
  · rfl
  · cases directiveText entry.value <;> rfl
  · rfl

theorem takeEntry_eq (q : Query) (entry : Criterion) :
    q.takeEntry entry = entry.change.map (Change.apply q) := by
  unfold takeEntry Criterion.change
  split_ifs
  · exact applyControl_eq q entry
  · rfl
  · rcases entry.clause? with e | _ | clause <;> rfl

theorem foldlM_takeEntry_eq (entries : List Criterion) (q : Query) :
    entries.foldlM takeEntry q =
      (entries.mapM Criterion.change).map fun changes => changes.foldl Change.apply q := by
  induction entries generalizing q with
  | nil => rfl
  | cons entry entries ih =>
      rw [List.foldlM_cons, List.mapM_cons, takeEntry_eq]
      cases entry.change with
      | error f => rfl
      | ok change =>
          have hrest := ih (change.apply q)
          simp only [Except.map, bind, Except.bind] at hrest ⊢
          rw [hrest]
          cases entries.mapM Criterion.change <;> rfl

theorem compile_of_endpoint {settings : Settings} {criteria : Criteria} {endpoint : String}
    (h : endpointFor settings criteria = .ok endpoint) :
    compile settings criteria = (criteria.entries.mapM Criterion.change).map fun changes =>
      withEcho settings (changes.foldl Change.apply (start criteria endpoint)) := by
  have hfolded := foldlM_takeEntry_eq criteria.entries (start criteria endpoint)
  unfold compile
  rw [h]
  simp only [bind, Except.bind, hfolded]
  cases criteria.entries.mapM Criterion.change <;> rfl

theorem compile_of_no_endpoint {settings : Settings} {criteria : Criteria} {f : Failure}
    (h : endpointFor settings criteria = .error f) : compile settings criteria = .error f := by
  unfold compile
  rw [h]
  rfl

/-- Criteria have a query if there is an endpoint and if every entry makes a change. -/
theorem compile_eq_ok_iff {settings : Settings} {criteria : Criteria} {q : Query} :
    compile settings criteria = .ok q ↔
      ∃ endpoint changes, endpointFor settings criteria = .ok endpoint ∧
        criteria.entries.mapM Criterion.change = .ok changes ∧
        q = withEcho settings (changes.foldl Change.apply (start criteria endpoint)) := by
  cases hendpoint : endpointFor settings criteria with
  | error f => simp [compile_of_no_endpoint hendpoint]
  | ok endpoint =>
      rw [compile_of_endpoint hendpoint]
      cases criteria.entries.mapM Criterion.change <;> simp [Except.map, eq_comm]

section Echo

variable (settings : Settings) (q : Query)

/-- Only parameters are added for the settings. -/
theorem withEcho_eq : withEcho settings q = { q with params := (withEcho settings q).params } := by
  unfold withEcho
  cases Settings.given settings.echoParams <;> rfl

@[simp]
theorem withEcho_query : (withEcho settings q).query = q.query := by rw [withEcho_eq]

@[simp]
theorem withEcho_filters : (withEcho settings q).filters = q.filters := by rw [withEcho_eq]

@[simp]
theorem withEcho_sort : (withEcho settings q).sort = q.sort := by rw [withEcho_eq]

@[simp]
theorem withEcho_endpoint : (withEcho settings q).endpoint = q.endpoint := by rw [withEcho_eq]

@[simp]
theorem withEcho_expansion : (withEcho settings q).expansion = q.expansion := by rw [withEcho_eq]

end Echo

end Query

namespace Change

/-! ### Queries after changes -/

variable {γ : Type} {changes : List Change}

theorem foldl_endpoint (changes : List Change) (q : Query) :
    (changes.foldl apply q).endpoint = q.endpoint := by
  induction changes generalizing q with
  | nil => rfl
  | cons change changes ih =>
      rw [List.foldl_cons, ih]
      cases change <;> rfl

/-- A part to which every change may add something. -/
theorem foldl_added {part : Query → List γ} {added : Change → Option γ}
    (hstep : ∀ change ∈ changes, ∀ q, part (change.apply q) = part q ++ (added change).toList)
    (q : Query) : part (changes.foldl apply q) = part q ++ changes.filterMap added := by
  induction changes generalizing q with
  | nil => simp
  | cons change changes ih =>
      obtain ⟨hchange, hrest⟩ := List.forall_mem_cons.mp hstep
      rw [List.foldl_cons, ih hrest, hchange, List.filterMap_cons]
      cases added change <;> simp

theorem foldl_expansion (changes : List Change) (q : Query) :
    (changes.foldl apply q).expansion =
      (changes.filterMap expansion?).getLast?.or q.expansion := by
  refine foldl_replaced (fun change _ q => ?_) q
  cases change <;> rfl

section NoRestart

variable (hnone : ∀ change ∈ changes, change.isRestart = false)

include hnone

theorem foldl_filters (q : Query) :
    (changes.foldl apply q).filters = q.filters ++ changes.filterMap filter? := by
  refine foldl_added (fun change hchange q => ?_) q
  cases change with
  | restart made => exact absurd (hnone _ hchange) (by simp [isRestart])
  | filter clause => rfl
  | _ => exact (List.append_nil q.filters).symm

theorem foldl_sort (q : Query) :
    (changes.foldl apply q).sort = q.sort ++ changes.filterMap order? := by
  refine foldl_added (fun change hchange q => ?_) q
  cases change with
  | restart made => exact absurd (hnone _ hchange) (by simp [isRestart])
  | order field d => rfl
  | _ => exact (List.append_nil q.sort).symm

theorem foldl_query (q : Query) :
    some (changes.foldl apply q).query =
      (changes.filterMap query?).getLast?.or (some q.query) := by
  have hstep : ∀ change ∈ changes, ∀ q : Query,
      some (change.apply q).query = change.query?.or (some q.query) := by
    intro change hchange q
    cases change with
    | restart made => exact absurd (hnone _ hchange) (by simp [isRestart])
    | _ => rfl
  exact @foldl_replaced _ _ _ apply (fun q => some q.query) query? changes hstep q

end NoRestart

end Change

namespace Criterion

/-! ### What entries change -/

/-- An entry and the change that it makes. -/
inductive Makes (entry : Criterion) : Change → Prop
  | query (field : entry.field = Control.query) (present : entry.value.isNull = false) :
      Makes entry (.query entry.value.toText)
  | restart {made : Query} (field : entry.field = Control.url) : Makes entry (.restart made)
  | param {name s : String} (field : entry.field = Control.param) : Makes entry (.param name s)
  | expansion (field : entry.field = Control.expand) (present : entry.value.isNull = false) :
      Makes entry (.expansion entry.value.toText)
  | idle (control : entry.isControl = true) (url : entry.field ≠ Control.url)
      (query : entry.field = Control.query → entry.value.isNull = true)
      (expand : entry.field = Control.expand → entry.value.isNull = true) : Makes entry .nothing
  | order (plain : entry.isControl = false) (sort : entry.operator = .sort) :
      Makes entry (.order entry.field (.ofValue entry.value))
  | filter {clause : String} (plain : entry.isControl = false) (sort : entry.operator ≠ .sort)
      (has : entry.clause? = .ok (some clause)) : Makes entry (.filter clause)
  | dropped (plain : entry.isControl = false) (sort : entry.operator ≠ .sort)
      (lacks : entry.clause? = .ok none) : Makes entry .nothing

/-- An entry on an ordinary field is none on a control field. -/
theorem field_ne {entry : Criterion} (h : entry.isControl = false) {name : String}
    (hname : Control.lead.toList.isPrefixOf name.toList = true) : entry.field ≠ name := by
  rintro rfl
  rw [isControl, hname] at h
  cases h

theorem directiveText_eq_ok {v : Value} {s : String} (h : Query.directiveText v = .ok s) :
    s = v.toText := by
  unfold Query.directiveText Clause.plainText Value.written at h
  split_ifs at h
  · exact (Except.ok.inj h).symm
  · cases h

theorem makes_of_controlChange {entry : Criterion} {change : Change}
    (hcontrol : entry.isControl = true) (h : entry.controlChange = .ok change) :
    entry.Makes change := by
  unfold controlChange at h
  dsimp only at h
  split_ifs at h with hquery hnull hurl hparam hexpand hnull
  · obtain rfl := Except.ok.inj h
    refine .idle hcontrol ?_ (fun _ => hnull) ?_
    · rw [hquery]
      decide
    · rw [hquery]
      exact fun h => absurd h (by decide)
  · obtain ⟨s, hs, rfl⟩ := map_eq_ok h
    rw [directiveText_eq_ok hs]
    exact .query hquery (by simpa using hnull)
  · obtain ⟨url, -, h⟩ := bind_eq_ok h
    obtain ⟨made, -, h⟩ := bind_eq_ok h
    obtain rfl := Except.ok.inj h
    exact .restart hurl
  · obtain ⟨pair, -, rfl⟩ := map_eq_ok h
    cases pair with
    | none =>
        refine .idle hcontrol hurl (fun h => absurd h hquery) fun h => ?_
        rw [hparam] at h
        exact absurd h (by decide)
    | some p => exact .param hparam
  · obtain rfl := Except.ok.inj h
    exact .idle hcontrol hurl (fun h => absurd h hquery) fun _ => hnull
  · obtain ⟨s, hs, rfl⟩ := map_eq_ok h
    rw [directiveText_eq_ok hs]
    exact .expansion hexpand (by simpa using hnull)
  · obtain rfl := Except.ok.inj h
    exact .idle hcontrol hurl (fun h => absurd h hquery) fun h => absurd h hexpand

theorem makes_of_change {entry : Criterion} {change : Change} (h : entry.change = .ok change) :
    entry.Makes change := by
  unfold Criterion.change at h
  split_ifs at h with hcontrol hsort
  · exact makes_of_controlChange hcontrol h
  · obtain rfl := Except.ok.inj h
    exact .order (by simpa using hcontrol) hsort
  · have hplain : entry.isControl = false := by simpa using hcontrol
    obtain ⟨clause, hclause, rfl⟩ := map_eq_ok h
    cases hc : entry.clause? with
    | error e => rw [hc] at hclause; cases hclause
    | ok c =>
        rw [hc] at hclause
        obtain rfl := Except.ok.inj hclause
        cases c with
        | none => exact .dropped hplain hsort hc
        | some clause => exact .filter hplain hsort hc

/-- Only entries on the URL field restart. -/
theorem Makes.isRestart_iff {entry : Criterion} {change : Change} (h : entry.Makes change) :
    change.isRestart = true ↔ entry.field = Control.url := by
  cases h with
  | restart field => exact iff_of_true rfl field
  | query field _ => exact iff_of_false Bool.noConfusion (field ▸ by decide)
  | param field => exact iff_of_false Bool.noConfusion (field ▸ by decide)
  | expansion field _ => exact iff_of_false Bool.noConfusion (field ▸ by decide)
  | idle _ url _ _ => exact iff_of_false Bool.noConfusion url
  | order plain _ => exact iff_of_false Bool.noConfusion (field_ne plain (by decide))
  | filter plain _ _ => exact iff_of_false Bool.noConfusion (field_ne plain (by decide))
  | dropped plain _ _ => exact iff_of_false Bool.noConfusion (field_ne plain (by decide))

/-- An entry on an ordinary field adds its sort order or its clause, if it has one. -/
theorem Makes.of_plain {entry : Criterion} {change : Change} (hplain : entry.isControl = false)
    (h : entry.Makes change) :
    (entry.operator = .sort ∧ change = .order entry.field (.ofValue entry.value)) ∨
      (entry.operator ≠ .sort ∧
        ∃ clause, entry.clause? = .ok clause ∧ change = clause.elim .nothing .filter) := by
  cases h with
  | order _ sort => exact .inl ⟨sort, rfl⟩
  | filter _ sort has => exact .inr ⟨sort, _, has, rfl⟩
  | dropped _ sort lacks => exact .inr ⟨sort, _, lacks, rfl⟩
  | query field _ => exact absurd field (field_ne hplain (by decide))
  | restart field => exact absurd field (field_ne hplain (by decide))
  | param field => exact absurd field (field_ne hplain (by decide))
  | expansion field _ => exact absurd field (field_ne hplain (by decide))
  | idle control _ _ _ =>
      rw [hplain] at control
      cases control

end Criterion

end CriteriaSearch
