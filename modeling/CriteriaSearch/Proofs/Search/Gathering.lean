import CriteriaSearch.Proofs.Search.Exchanges

/-!
# What an expansion gathers

The exchanges of an expansion, step by step: at most one fetch for the parents that are missing on
the page, then the fetches for the children of each parent. Their answers decide whether the page is
merged with what they brought, or the table stays as it was.
-/

namespace CriteriaSearch

namespace Engine

variable {σ : Type} (x : Engine σ)

/-- The exchanges for missing parents, and what they bring. -/
inductive ParentStep (e : Expansion) (page : List Node) :
    List Exchange → Except Failure (Option (Nat × List Node)) → Prop
  | skipped (off : e.includesParents = false) : ParentStep e page [] (.ok none)
  | complete (on : e.includesParents = true) (nil : Supplement.missingParents page = []) :
      ParentStep e page [] (.ok none)
  | refused {cause : Failure} (on : e.includesParents = true)
      (ne_nil : Supplement.missingParents page ≠ [])
      (refusal : x.parentRequest (Supplement.missingParents page) = .error cause) :
      ParentStep e page [] (.error cause)
  | fetched {r : Request} {t : Table} (on : e.includesParents = true)
      (ne_nil : Supplement.missingParents page ≠ [])
      (request : x.parentRequest (Supplement.missingParents page) = .ok r) :
      ParentStep e page [.answered r t]
        (.ok (some ((Supplement.missingParents page).length, x.nodes t)))
  | failed {r : Request} {f : Failure} (on : e.includesParents = true)
      (request : x.parentRequest (Supplement.missingParents page) = .ok r) :
      ParentStep e page [⟨r, .error f⟩] (.error (raised f))

/-- The exchanges for the children of the parents among known rows, and what they bring. -/
inductive ChildStep (e : Expansion) (known : List Node) :
    List Exchange → Except Failure (Named (List Node)) → Prop
  | skipped (off : e.includesChildren = false) : ChildStep e known [] (.ok [])
  | refused {cause : Failure} (on : e.includesChildren = true)
      (refusal : x.requestChildren e known = .error cause) :
      ChildStep e known [] (.error cause)
  | settled {requests : List Request} {exchanges : List Exchange}
      {result : Except Failure (List Table)} (on : e.includesChildren = true)
      (request : x.requestChildren e known = .ok requests)
      (settled : Settled requests exchanges result) :
      ChildStep e known exchanges (result.bind (x.readChildren known))

/-- The page of rows in the order of the hierarchy. -/
def pageOf (rows : List Row) : List Node := reconcile (x.hierarchy.page rows)

/-- The parents among what a parent step brought. -/
def foundParents (found : Option (Nat × List Node)) : List Node := (found.map (·.2)).getD []

/-- The family of a page with parents and children. -/
def familyOf (page : List Node) (e : Expansion) (parents : List Node)
    (children : Named (List Node)) : Family where
  hierarchy := x.hierarchy
  expansion := e
  page := page
  parents := parents
  children := children

/-- The exchanges for what a page lacks, and the family they bring. -/
inductive Supplied (page : List Node) (e : Expansion) :
    List Exchange → Except Failure Family → Prop
  | complete {xs ys : List Exchange} {found : Option (Nat × List Node)}
      {children : Named (List Node)} (parents : x.ParentStep e page xs (.ok found))
      (rest : x.ChildStep e (page ++ foundParents found) ys (.ok children)) :
      Supplied page e (xs ++ ys) (.ok (x.familyOf page e (foundParents found) children))
  | noParents {xs : List Exchange} {cause : Failure}
      (parents : x.ParentStep e page xs (.error cause)) : Supplied page e xs (.error cause)
  | noChildren {xs ys : List Exchange} {found : Option (Nat × List Node)} {cause : Failure}
      (parents : x.ParentStep e page xs (.ok found))
      (rest : x.ChildStep e (page ++ foundParents found) ys (.error cause)) :
      Supplied page e (xs ++ ys) (.error cause)

/-- The exchanges of a whole expansion, and the family they bring: none if the page cannot be put in
order, and a family only if the keys can be read by which it is merged. -/
inductive Gathered (rows : List Row) (e : Expansion) :
    List Exchange → Except Failure Family → Prop
  | disordered {cause : Failure} (refusal : x.hierarchy.arrange x.room rows = .error cause) :
      Gathered rows e [] (.error cause)
  | supplied {exchanges : List Exchange} {result : Except Failure Family}
      (arranged : x.hierarchy.arrange x.room rows = .ok (x.pageOf rows))
      (supplied : x.Supplied (x.pageOf rows) e exchanges result) :
      Gathered rows e exchanges (result.bind fun f => f.requireKeys.map fun _ => f)

theorem fetchParents_writes {e : Expansion} (on : e.includesParents = true) (page : List Node) :
    x.Writes (x.journaled.fetchParents page) (x.ParentStep e page) := by
  unfold fetchParents
  cases hids : Supplement.missingParents page with
  | nil => exact .pure (.complete on hids)
  | cons id ids =>
      dsimp only [journaled_parentRequest]
      rw [← hids]
      cases hr : x.parentRequest (Supplement.missingParents page) with
      | error cause => exact .pure (.refused on (hids ▸ List.cons_ne_nil id ids) hr)
      | ok r =>
          refine (x.fetchSupplement_writes r).bind fun xs result hresult => .pure ?_
          obtain ⟨answer, rfl, rfl⟩ := hresult
          cases answer with
          | error f => exact .failed on hr
          | ok t => exact .fetched on (hids ▸ List.cons_ne_nil id ids) hr

theorem fetchChildren_writes {e : Expansion} (on : e.includesChildren = true)
    (known : List Node) :
    x.Writes (x.journaled.fetchChildren e known) (x.ChildStep e known) := by
  unfold fetchChildren
  dsimp only [journaled_requestChildren, journaled_readChildren]
  cases hrequests : x.requestChildren e known with
  | error cause => exact .pure (.refused on hrequests)
  | ok requests =>
      refine (x.fetchAll_writes requests).bind fun xs result hresult => .pure ?_
      rw [List.append_nil]
      exact .settled on hrequests hresult

theorem parentStep_writes (e : Expansion) (page : List Node) :
    x.Writes (if e.includesParents then x.journaled.fetchParents page else return .ok none)
      (x.ParentStep e page) := by
  cases hon : e.includesParents with
  | false => exact .pure (.skipped hon)
  | true => exact x.fetchParents_writes hon page

theorem childStep_writes (e : Expansion) (known : List Node) :
    x.Writes (if e.includesChildren then x.journaled.fetchChildren e known else return .ok [])
      (x.ChildStep e known) := by
  cases hon : e.includesChildren with
  | false => exact .pure (.skipped hon)
  | true => exact x.fetchChildren_writes hon known

/-- What is written for a page: the step for parents and, if that succeeds, the step for children,
of which the caller says what it writes. -/
theorem supply_writes_of (page : List Node) (e : Expansion)
    {post : List Node → List Exchange → Except Failure (Named (List Node)) → Prop}
    (hpost : ∀ known, x.Writes
      (if e.includesChildren then x.journaled.fetchChildren e known else return .ok [])
      (post known)) :
    x.Writes (x.journaled.supply page e) fun exchanges result =>
      (∃ cause, x.ParentStep e page exchanges (.error cause) ∧ result.1 = .error cause) ∨
      ∃ xs ys found children, exchanges = xs ++ ys ∧ x.ParentStep e page xs (.ok found) ∧
        post (page ++ foundParents found) ys children ∧
        result.1 = children.map (x.familyOf page e (foundParents found)) := by
  refine (x.parentStep_writes e page).bind fun xs result hresult => ?_
  cases result with
  | error cause => exact .pure (.inl ⟨cause, by simpa using hresult, rfl⟩)
  | ok found =>
      refine (hpost (page ++ foundParents found)).bind fun ys children hrest => ?_
      rw [← List.append_nil ys] at hrest
      cases children with
      | error cause => exact .pure (.inr ⟨xs, _, found, _, rfl, hresult, hrest, rfl⟩)
      | ok children => exact .pure (.inr ⟨xs, _, found, _, rfl, hresult, hrest, rfl⟩)

theorem supply_writes (page : List Node) (e : Expansion) :
    x.Writes (x.journaled.supply page e) fun exchanges result =>
      x.Supplied page e exchanges result.1 := by
  refine (x.supply_writes_of page e (x.childStep_writes e)).mono fun exchanges result h => ?_
  rcases h with ⟨cause, hparents, hresult⟩ |
    ⟨xs, ys, found, children, rfl, hparents, hrest, hresult⟩
  · rw [hresult]
    exact .noParents hparents
  · rw [hresult]
    cases children with
    | error cause => exact .noChildren hparents hrest
    | ok children => exact .complete hparents hrest

theorem mergeable_fst (supplied : Except Failure Family × List ExpansionNote) :
    (mergeable supplied).1 = supplied.1.bind fun f => f.requireKeys.map fun _ => f := by
  obtain ⟨family, notes⟩ := supplied
  cases family with
  | error cause => rfl
  | ok f =>
      unfold mergeable
      dsimp only [Except.bind]
      cases f.requireKeys <;> rfl

theorem arrange_eq_pageOf {rows : List Row} {page : List Node}
    (h : x.hierarchy.arrange x.room rows = .ok page) : page = x.pageOf rows :=
  (Hierarchy.arrange_eq_ok h).2

theorem gather_writes (rows : List Row) (e : Expansion) :
    x.Writes (x.journaled.gather rows e) fun exchanges result =>
      x.Gathered rows e exchanges result.1 := by
  unfold gather
  dsimp only [journaled_hierarchy, journaled_room]
  cases harranged : x.hierarchy.arrange x.room rows with
  | error cause => exact .pure (.disordered harranged)
  | ok page =>
      obtain rfl := x.arrange_eq_pageOf harranged
      refine (x.supply_writes (x.pageOf rows) e).bind fun exchanges result hsupplied => .pure ?_
      rw [List.append_nil, mergeable_fst]
      exact .supplied harranged hsupplied

/-! ### Answers -/

/-- All fetches were answered with tables. -/
def Answered (exchanges : List Exchange) : Prop := ∀ ex ∈ exchanges, ∃ t, ex.answer = .ok t

/-- A failure is the one of a fetch. -/
def Raised (exchanges : List Exchange) (cause : Failure) : Prop :=
  ∃ ex ∈ exchanges, ∃ f, ex.answer = .error f ∧ cause = raised f

theorem Answered.append {xs ys : List Exchange} (hxs : Answered xs) (hys : Answered ys) :
    Answered (xs ++ ys) := fun ex hex => (List.mem_append.mp hex).elim (hxs ex) (hys ex)

theorem not_answered_of_raised {exchanges : List Exchange} {cause : Failure}
    (h : Raised exchanges cause) : ¬ Answered exchanges := by
  intro hanswered
  obtain ⟨ex, hex, f, hf, -⟩ := h
  obtain ⟨t, ht⟩ := hanswered ex hex
  rw [hf] at ht
  cases ht

theorem Settled.exchange_mem {requests : List Request} {exchanges : List Exchange}
    {tables : List Table} (h : Settled requests exchanges (.ok tables)) :
    tables.length = requests.length ∧ ∀ i (hr : i < requests.length) (ht : i < tables.length),
      Exchange.answered requests[i] tables[i] ∈ exchanges := by
  cases h with
  | answered length_eq perm =>
      refine ⟨length_eq, fun i hr ht => ?_⟩
      have hzip : i < (List.zipWith Exchange.answered requests tables).length := by
        rw [List.length_zipWith]
        exact Nat.lt_min.mpr ⟨hr, ht⟩
      have hmem := perm.mem_iff.mpr (List.getElem_mem hzip)
      rwa [List.getElem_zipWith] at hmem

theorem Settled.answered_of_ok {requests : List Request} {exchanges : List Exchange}
    {tables : List Table} (h : Settled requests exchanges (.ok tables)) : Answered exchanges := by
  cases h with
  | answered length_eq perm =>
      intro ex hex
      obtain ⟨i, hi, rfl⟩ := List.mem_iff_getElem.mp (perm.mem_iff.mp hex)
      rw [List.getElem_zipWith]
      exact ⟨_, rfl⟩

theorem Settled.raised_of_error {requests : List Request} {exchanges : List Exchange}
    {cause : Failure} (h : Settled requests exchanges (.error cause)) :
    Raised exchanges cause := by
  cases h with
  | failed mem answer_eq => exact ⟨_, mem, _, answer_eq, rfl⟩

section Steps

variable {x} {e : Expansion} {rows : List Row} {page known : List Node} {exchanges : List Exchange}
  {cause : Failure}

theorem ParentStep.answered_of_ok {found : Option (Nat × List Node)}
    (h : x.ParentStep e page exchanges (.ok found)) : Answered exchanges := by
  cases h with
  | skipped off => simp [Answered]
  | complete on nil => simp [Answered]
  | fetched on ne_nil request => simp [Answered, Exchange.answered]

/-- Missing parents are not found because there is no query for them, or because their fetch
failed. -/
theorem ParentStep.raised_or_refused (h : x.ParentStep e page exchanges (.error cause)) :
    Raised exchanges cause ∨ exchanges = [] ∧ Supplement.missingParents page ≠ [] ∧
      x.parentRequest (Supplement.missingParents page) = .error cause := by
  cases h with
  | refused on ne_nil refusal => exact .inr ⟨rfl, ne_nil, refusal⟩
  | failed on request => exact .inl ⟨_, List.mem_cons_self, _, rfl, rfl⟩

/-- If the requests for children are there, then they are those for all parents. -/
theorem childRequests_of_requestChildren {requests : List Request}
    (h : x.requestChildren e known = .ok requests) :
    x.childRequests e known (Supplement.parentIds known) = .ok requests := by
  obtain ⟨_, -, h⟩ := bind_eq_ok h
  cases hids : Supplement.parentIds known with
  | nil =>
      rw [hids] at h
      exact h
  | cons id ids =>
      rw [hids] at h
      obtain ⟨_, -, h⟩ := bind_eq_ok h
      exact h

/-- The children that were read are those in the replies, and all of them have keys. -/
theorem readChildren_eq_ok {tables : List Table} {children : Named (List Node)}
    (h : x.readChildren known tables = .ok children) :
    (∀ t ∈ tables, ∀ row ∈ t.rows, x.hierarchy.IsLegible row) ∧
      children = (Supplement.parentIds known).zip
        (tables.map fun t => Supplement.distinct (x.nodes t)) := by
  obtain ⟨_, hread, h⟩ := bind_eq_ok h
  refine ⟨fun t ht row hrow => ?_, (Except.ok.inj h).symm⟩
  exact Hierarchy.hasText_of_texts hread row (List.mem_flatMap.mpr ⟨t, ht, hrow⟩)

theorem readChildren_eq_error {tables : List Table} {cause : Failure}
    (h : x.readChildren known tables = .error cause) :
    cause = .unwritable ∧ ∃ t ∈ tables, ∃ row ∈ t.rows, ¬ x.hierarchy.IsLegible row := by
  unfold readChildren at h
  rcases Hierarchy.texts_cases x.hierarchy.keyNames (tables.flatMap Table.rows) with
    ⟨-, read, hread⟩ | ⟨⟨row, hrow, name, hname, hnot⟩, herror⟩
  · rw [hread] at h
    cases h
  · rw [herror] at h
    obtain ⟨t, ht, hrow⟩ := List.mem_flatMap.mp hrow
    exact ⟨(Except.error.inj h).symm, t, ht, row, hrow, fun hlegible => hnot (hlegible name hname)⟩

/-- Children are found if nothing was asked for, or if all requests were answered. -/
theorem ChildStep.cases_of_ok {children : Named (List Node)}
    (h : x.ChildStep e known exchanges (.ok children)) :
    e.includesChildren = false ∧ exchanges = [] ∧ children = [] ∨
      ∃ requests tables, e.includesChildren = true ∧
        x.childRequests e known (Supplement.parentIds known) = .ok requests ∧
        Settled requests exchanges (.ok tables) ∧
        (∀ t ∈ tables, ∀ row ∈ t.rows, x.hierarchy.IsLegible row) ∧
        children = (Supplement.parentIds known).zip
          (tables.map fun t => Supplement.distinct (x.nodes t)) := by
  generalize hresult : (Except.ok children : Except Failure (Named (List Node))) = result at h
  cases h with
  | skipped off => exact .inl ⟨off, rfl, Except.ok.inj hresult⟩
  | refused on refusal => cases hresult
  | @settled requests _ result on request settled =>
      obtain ⟨tables, rfl, hread⟩ := bind_eq_ok hresult.symm
      obtain ⟨hlegible, hchildren⟩ := readChildren_eq_ok hread
      exact .inr ⟨requests, tables, on, childRequests_of_requestChildren request, settled, hlegible,
        hchildren⟩

theorem ChildStep.answered_of_ok {children : Named (List Node)}
    (h : x.ChildStep e known exchanges (.ok children)) : Answered exchanges := by
  rcases h.cases_of_ok with ⟨-, rfl, -⟩ | ⟨requests, tables, -, -, settled, -, -⟩
  · simp [Answered]
  · exact settled.answered_of_ok

theorem getElem_of_childRequests {parents : List String} {requests : List Request}
    (h : x.childRequests e known parents = .ok requests) :
    parents.length = requests.length ∧ ∀ i (hp : i < parents.length) (hr : i < requests.length),
      ∃ query, Query.compile x.settings (Supplement.childCriteria x.hierarchy known parents[i]) =
        .ok query ∧ requests[i] = ⟨query, some e.offset, some e.limit⟩ := by
  have hrequests := mapM_eq_ok_iff.mp h
  refine ⟨by simpa using congrArg List.length hrequests, fun i hp hr => ?_⟩
  have hat := congrArg (·[i]?) hrequests
  simp only [List.getElem?_map, List.getElem?_eq_getElem hp, List.getElem?_eq_getElem hr,
    Option.map_some, Option.some.injEq] at hat
  cases hquery : Query.compile x.settings
      (Supplement.childCriteria x.hierarchy known parents[i]) with
  | error cause =>
      rw [hquery] at hat
      cases hat
  | ok query =>
      rw [hquery] at hat
      exact ⟨query, rfl, (Except.ok.inj hat).symm⟩

/-- If the children are found, then there is an answer for every parent, and nothing for others. -/
theorem ChildStep.exists_answer (on : e.includesChildren = true) {children : Named (List Node)}
    (h : x.ChildStep e known exchanges (.ok children)) {p : String}
    (hp : p ∈ Supplement.parentIds known) :
    ∃ query t, Query.compile x.settings (Supplement.childCriteria x.hierarchy known p) = .ok query ∧
      Exchange.answered ⟨query, some e.offset, some e.limit⟩ t ∈ exchanges ∧
      children.get? p = some (Supplement.distinct (x.nodes t)) := by
  rcases h.cases_of_ok with ⟨off, -, -⟩ | ⟨requests, tables, -, request, settled, -, rfl⟩
  · rw [on] at off
    cases off
  · obtain ⟨htables, hexchange⟩ := settled.exchange_mem
    obtain ⟨hlength, hrequest⟩ := getElem_of_childRequests request
    obtain ⟨i, hi, rfl⟩ := List.mem_iff_getElem.mp hp
    have hr : i < requests.length := hlength ▸ hi
    have ht : i < tables.length := htables ▸ hr
    obtain ⟨query, hquery, hr'⟩ := hrequest i hi hr
    refine ⟨query, tables[i], hquery, hr' ▸ hexchange i hr ht, lookup_eq_some_of_mem ?_ ?_⟩
    · rw [List.map_fst_zip (by simp [htables, hlength])]
      exact nodup_eraseDups _
    · have hzip : i < ((Supplement.parentIds known).zip
          (tables.map fun t => Supplement.distinct (x.nodes t))).length := by
        rw [List.length_zip, List.length_map]
        exact Nat.lt_min.mpr ⟨hi, ht⟩
      have hmem := List.getElem_mem hzip
      rwa [List.getElem_zip, List.getElem_map] at hmem

theorem ChildStep.mem_parentIds {children : Named (List Node)}
    (h : x.ChildStep e known exchanges (.ok children)) {p : String} {nodes : List Node}
    (hget : children.get? p = some nodes) :
    e.includesChildren = true ∧ p ∈ Supplement.parentIds known := by
  rcases h.cases_of_ok with ⟨-, -, rfl⟩ | ⟨requests, tables, on, -, -, -, rfl⟩
  · cases hget
  · exact ⟨on, (List.of_mem_zip (mem_of_lookup_eq_some hget)).1⟩

/-- Children are not found because there are no queries for them, because a fetch failed, or because
a child has no key. -/
theorem ChildStep.raised_or_refused (h : x.ChildStep e known exchanges (.error cause)) :
    Raised exchanges cause ∨
      exchanges = [] ∧ e.includesChildren = true ∧ x.requestChildren e known = .error cause ∨
      Answered exchanges ∧ cause = .unwritable ∧
        ∃ ex ∈ exchanges, ∃ row ∈ ex.rows, ¬ x.hierarchy.IsLegible row := by
  generalize hresult : (Except.error cause : Except Failure (Named (List Node))) = result at h
  cases h with
  | skipped off => cases hresult
  | refused on refusal =>
      obtain rfl := Except.error.inj hresult
      exact .inr (.inl ⟨rfl, on, refusal⟩)
  | @settled requests _ result on request settled =>
      cases result with
      | error f =>
          obtain rfl := Except.error.inj hresult
          exact .inl settled.raised_of_error
      | ok tables =>
          obtain ⟨hcause, t, ht, row, hrow, hnot⟩ := readChildren_eq_error hresult.symm
          obtain ⟨hlength, hexchange⟩ := settled.exchange_mem
          obtain ⟨i, hi, rfl⟩ := List.mem_iff_getElem.mp ht
          exact .inr (.inr ⟨settled.answered_of_ok, hcause, _, hexchange i (hlength ▸ hi) hi, row,
            hrow, hnot⟩)

theorem Supplied.answered_of_ok {f : Family} (h : x.Supplied page e exchanges (.ok f)) :
    Answered exchanges := by
  cases h with
  | complete parents rest => exact parents.answered_of_ok.append rest.answered_of_ok

theorem Supplied.raised_of_not_answered (h : x.Supplied page e exchanges (.error cause))
    (hnot : ¬ Answered exchanges) : Raised exchanges cause := by
  cases h with
  | noParents parents =>
      rcases parents.raised_or_refused with hraised | ⟨rfl, -, -⟩
      · exact hraised
      · exact absurd (fun ex hex => absurd hex List.not_mem_nil) hnot
  | noChildren parents rest =>
      rcases rest.raised_or_refused with ⟨ex, hex, f, hf, rfl⟩ | ⟨rfl, -⟩ | ⟨hanswered, -⟩
      · exact ⟨ex, List.mem_append_right _ hex, f, hf, rfl⟩
      · exact absurd (by simpa using parents.answered_of_ok) hnot
      · exact absurd (parents.answered_of_ok.append hanswered) hnot

/-- A family that was gathered was supplied, and its keys can be read. -/
theorem Gathered.of_ok {f : Family} (h : x.Gathered rows e exchanges (.ok f)) :
    x.hierarchy.arrange x.room rows = .ok (x.pageOf rows) ∧
      x.Supplied (x.pageOf rows) e exchanges (.ok f) ∧ f.requireKeys = .ok () := by
  generalize hresult : (Except.ok f : Except Failure Family) = result at h
  cases h with
  | disordered refusal => cases hresult
  | supplied arranged supplied =>
      rw [← hresult]
      obtain ⟨g, rfl, hkeys⟩ := bind_eq_ok hresult.symm
      obtain ⟨_, hrequired, rfl⟩ := map_eq_ok hkeys
      exact ⟨arranged, supplied, hrequired⟩

theorem Gathered.supplied_of_ok {f : Family} (h : x.Gathered rows e exchanges (.ok f)) :
    x.Supplied (x.pageOf rows) e exchanges (.ok f) := h.of_ok.2.1

theorem Gathered.answered_of_ok {f : Family} (h : x.Gathered rows e exchanges (.ok f)) :
    Answered exchanges := h.supplied_of_ok.answered_of_ok

theorem Gathered.raised_of_not_answered (h : x.Gathered rows e exchanges (.error cause))
    (hnot : ¬ Answered exchanges) : Raised exchanges cause := by
  generalize hresult : (Except.error cause : Except Failure Family) = result at h
  cases h with
  | disordered refusal => exact absurd (fun ex hex => absurd hex List.not_mem_nil) hnot
  | @supplied _ result arranged supplied =>
      cases result with
      | error f =>
          obtain rfl := Except.error.inj hresult
          exact supplied.raised_of_not_answered hnot
      | ok f => exact absurd supplied.answered_of_ok hnot

end Steps

theorem exists_gathered (rows : List Row) (e : Expansion) (s : σ) :
    ∃ exchanges, x.Gathered rows e exchanges (x.gather rows e s).1.1 := by
  obtain ⟨exchanges, -, -, hgathered⟩ := x.gather_writes rows e s []
  have hsame := congrArg Prod.fst (x.journaled_gather rows e s [])
  exact ⟨exchanges, hsame ▸ hgathered⟩

theorem Gathered.page_eq {rows : List Row} {e : Expansion} {exchanges : List Exchange} {f : Family}
    (h : x.Gathered rows e exchanges (.ok f)) : f.page = reconcile (x.hierarchy.page rows) := by
  cases h.supplied_of_ok with
  | complete parents rest => rfl

/-! ### Outcomes -/

/-- A table that an expansion leaves as it is, without any fetch. -/
def Idle (t : Table) (e : Expansion) : Prop :=
  e.mode = .none ∨ t.rows = [] ∨ t.hasColumn x.hierarchy.id = false

/-- The exchanges of an expansion, how it ends, and the table after it. -/
inductive Expanded (t : Table) (e : Expansion) :
    List Exchange → Except Failure Unit → Table → Prop
  | idle (idle : x.Idle t e) : Expanded t e [] (.ok ()) t
  | merged {exchanges : List Exchange} {f : Family} (busy : ¬ x.Idle t e)
      (gathered : x.Gathered t.rows e exchanges (.ok f)) :
      Expanded t e exchanges (.ok ()) (withMerged x.hierarchy t f.merge)
  | failed {exchanges : List Exchange} {cause : Failure} (busy : ¬ x.Idle t e)
      (gathered : x.Gathered t.rows e exchanges (.error cause)) :
      Expanded t e exchanges (.error cause) t

theorem expandInPlace_writes (t : Table) (e : Expansion) :
    x.Writes ((x.journaled.expandInPlace e).run t) fun exchanges result =>
      x.Expanded t e exchanges result.1.1 result.2 := by
  rw [expandInPlace_run, journaled_hierarchy]
  by_cases hidle : e.mode = .none ∨ t.rows.isEmpty
  · rw [if_pos hidle]
    exact .pure (.idle (hidle.imp_right fun h => .inl (List.isEmpty_iff.mp h)))
  · rw [if_neg hidle]
    by_cases hid : !t.hasColumn x.hierarchy.id
    · rw [if_pos hid]
      exact .pure (.idle (.inr (.inr (by simpa using hid))))
    · rw [if_neg hid]
      have hbusy : ¬ x.Idle t e := by
        rintro (h | h | h)
        · exact hidle (.inl h)
        · exact hidle (.inr (List.isEmpty_iff.mpr h))
        · exact hid (by simp [h])
      refine (x.gather_writes t.rows e).bind fun xs result hgathered => ?_
      obtain ⟨family, notes⟩ := result
      cases family with
      | error cause => exact .pure (by simpa using .failed hbusy hgathered)
      | ok f => exact .pure (by simpa using .merged hbusy hgathered)

/-- What an expansion makes of a table, told by its exchanges. -/
theorem expanded_expandInPlace (t : Table) (e : Expansion) (s : σ) :
    x.Expanded t e (x.exchanges t e s) ((x.expandInPlace e).run t s).1.1.1
      ((x.expandInPlace e).run t s).1.2 := by
  obtain ⟨exchanges, hjournal, -, hexpanded⟩ := x.expandInPlace_writes t e s []
  have hsame := congrArg Prod.fst (x.journaled_expandInPlace e t s [])
  have hexchanges : x.exchanges t e s = exchanges := hjournal
  rw [hexchanges, ← hsame]
  exact hexpanded

theorem genuine_of_mem_exchanges {t : Table} {e : Expansion} {s : σ} {ex : Exchange}
    (hex : ex ∈ x.exchanges t e s) : x.Genuine ex := by
  obtain ⟨exchanges, hjournal, hgenuine, -⟩ := x.expandInPlace_writes t e s []
  have hexchanges : x.exchanges t e s = exchanges := hjournal
  exact hgenuine ex (hexchanges ▸ hex)

theorem expand_outcome (t : Table) (e : Expansion) (s : σ) :
    (x.expand t e s).1.outcome =
      ((x.expandInPlace e).run t s).1.1.1.map fun _ => ((x.expandInPlace e).run t s).1.2 := rfl

theorem table_eq_of_error {t : Table} {e : Expansion} {s : σ} {cause : Failure}
    (h : (x.expand t e s).1.outcome = .error cause) : ((x.expandInPlace e).run t s).1.2 = t := by
  have hexpanded := x.expanded_expandInPlace t e s
  rw [expand_outcome] at h
  cases hdone : ((x.expandInPlace e).run t s).1.1.1 with
  | ok done =>
      rw [hdone] at h
      cases h
  | error f =>
      rw [hdone] at hexpanded
      generalize x.exchanges t e s = exchanges at hexpanded
      generalize ((x.expandInPlace e).run t s).1.2 = after at hexpanded ⊢
      cases hexpanded with
      | failed busy gathered => rfl

/-- How an expansion ends, told by its exchanges. -/
theorem expand_cases (t : Table) (e : Expansion) (s : σ) :
    x.Idle t e ∧ x.exchanges t e s = [] ∧ (x.expand t e s).1.outcome = .ok t ∨
      (∃ f, ¬ x.Idle t e ∧ x.Gathered t.rows e (x.exchanges t e s) (.ok f) ∧
        (x.expand t e s).1.outcome = .ok (withMerged x.hierarchy t f.merge)) ∨
      ∃ cause, ¬ x.Idle t e ∧ x.Gathered t.rows e (x.exchanges t e s) (.error cause) ∧
        (x.expand t e s).1.outcome = .error cause := by
  have hexpanded := x.expanded_expandInPlace t e s
  rw [expand_outcome]
  revert hexpanded
  generalize x.exchanges t e s = exchanges
  generalize ((x.expandInPlace e).run t s).1.1.1 = done
  generalize ((x.expandInPlace e).run t s).1.2 = after
  intro hexpanded
  cases hexpanded with
  | idle idle => exact .inl ⟨idle, rfl, rfl⟩
  | merged busy gathered => exact .inr (.inl ⟨_, busy, gathered, rfl⟩)
  | failed busy gathered => exact .inr (.inr ⟨_, busy, gathered, rfl⟩)

theorem expand_of_idle {t : Table} {e : Expansion} (h : x.Idle t e) (s : σ) :
    (x.expand t e s).1.outcome = .ok t := by
  rcases x.expand_cases t e s with ⟨-, -, hok⟩ | ⟨f, hbusy, -⟩ | ⟨cause, hbusy, -⟩
  · exact hok
  · exact absurd h hbusy
  · exact absurd h hbusy

theorem exchanges_of_idle {t : Table} {e : Expansion} (h : x.Idle t e) (s : σ) :
    x.exchanges t e s = [] := by
  rcases x.expand_cases t e s with ⟨-, hnone, -⟩ | ⟨f, hbusy, -⟩ | ⟨cause, hbusy, -⟩
  · exact hnone
  · exact absurd h hbusy
  · exact absurd h hbusy

theorem not_idle {t : Table} {e : Expansion} (hmode : e.mode ≠ .none) (hrows : t.rows ≠ [])
    (hid : t.hasColumn x.hierarchy.id = true) : ¬ x.Idle t e := by
  rintro (h | h | h)
  · exact hmode h
  · exact hrows h
  · rw [hid] at h
    cases h

/-- A busy expansion ends as gathering does. -/
theorem expand_outcome_of_busy {t : Table} {e : Expansion} (hbusy : ¬ x.Idle t e) (s : σ) :
    (x.expand t e s).1.outcome =
      (x.gather t.rows e s).1.1.map fun f => withMerged x.hierarchy t f.merge := by
  have hidle : ¬ (e.mode = .none ∨ t.rows.isEmpty) := fun h =>
    hbusy (h.imp_right fun hrows => .inl (List.isEmpty_iff.mp hrows))
  have hid : ¬ (!t.hasColumn x.hierarchy.id) = true := fun h =>
    hbusy (.inr (.inr (by simpa using h)))
  rw [expand_outcome, expandInPlace_run, if_neg hidle, if_neg hid]
  rcases hresult : x.gather t.rows e s with ⟨⟨family, notes⟩, s'⟩
  simp only [bind, StateT.bind, hresult]
  cases family <;> rfl

/-- A busy expansion writes what gathering writes. -/
theorem exchanges_of_busy {t : Table} {e : Expansion} (hbusy : ¬ x.Idle t e) (s : σ) :
    x.exchanges t e s = (x.journaled.gather t.rows e (s, [])).2.2 := by
  have hidle : ¬ (e.mode = .none ∨ t.rows.isEmpty) := fun h =>
    hbusy (h.imp_right fun hrows => .inl (List.isEmpty_iff.mp hrows))
  have hid : ¬ (!t.hasColumn x.hierarchy.id) = true := fun h =>
    hbusy (.inr (.inr (by simpa using h)))
  have hstate : x.exchanges t e s = ((x.journaled.expandInPlace e).run t (s, [])).2.2 := rfl
  rw [hstate, expandInPlace_run, journaled_hierarchy, if_neg hidle, if_neg hid, bind_apply]
  obtain ⟨⟨family, notes⟩, s', journal⟩ := x.journaled.gather t.rows e (s, [])
  cases family <;> rfl

/-- The exchanges of a busy expansion bring the family that it gathers. -/
theorem gathered_of_busy {t : Table} {e : Expansion} (hbusy : ¬ x.Idle t e) (s : σ) :
    x.Gathered t.rows e (x.exchanges t e s) (x.gather t.rows e s).1.1 := by
  obtain ⟨exchanges, hjournal, -, hgathered⟩ := x.gather_writes t.rows e s []
  have hsame := congrArg Prod.fst (x.journaled_gather t.rows e s [])
  rw [x.exchanges_of_busy hbusy, hjournal, List.nil_append]
  exact hsame ▸ hgathered

theorem expand_of_gather {t : Table} {e : Expansion} (hbusy : ¬ x.Idle t e) {s : σ} {f : Family}
    (hgather : (x.gather t.rows e s).1.1 = .ok f) :
    (x.expand t e s).1.outcome = .ok (withMerged x.hierarchy t f.merge) := by
  rw [x.expand_outcome_of_busy hbusy, hgather]
  rfl

theorem gather_of_arranged {rows : List Row} {page : List Node}
    (h : x.hierarchy.arrange x.room rows = .ok page) (e : Expansion) (s : σ) :
    x.gather rows e s = (mergeable (x.supply page e s).1, (x.supply page e s).2) := by
  simp only [gather, h]
  rfl

/-- A page that was put into the order of the hierarchy is what fetches are made for. -/
theorem exchanges_of_arranged {t : Table} {e : Expansion} (hbusy : ¬ x.Idle t e)
    {page : List Node} (h : x.hierarchy.arrange x.room t.rows = .ok page) (s : σ) :
    x.exchanges t e s = (x.journaled.supply page e (s, [])).2.2 := by
  rw [x.exchanges_of_busy hbusy, x.journaled.gather_of_arranged h]

theorem gather_of_disordered {rows : List Row} {cause : Failure}
    (h : x.hierarchy.arrange x.room rows = .error cause) (e : Expansion) (s : σ) :
    x.gather rows e s = ((.error cause, []), s) := by
  simp only [gather, h]
  rfl

/-- Nothing is fetched for a page that cannot be put into the order of the hierarchy. -/
theorem expand_of_disordered {t : Table} {e : Expansion} (hbusy : ¬ x.Idle t e) {cause : Failure}
    (h : x.hierarchy.arrange x.room t.rows = .error cause) (s : σ) :
    (x.expand t e s).1.outcome = .error cause ∧ x.exchanges t e s = [] := by
  rw [x.expand_outcome_of_busy hbusy, x.exchanges_of_busy hbusy, x.gather_of_disordered h,
    x.journaled.gather_of_disordered h]
  exact ⟨rfl, rfl⟩

end Engine

end CriteriaSearch
