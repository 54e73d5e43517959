import CriteriaSearch.Proofs.Search.Journal

/-!
# What is written into journals

Every computation on a journal appends the exchanges it has with the source. For each step of an
expansion this module says which exchanges these are and how they decide the result: either every
request was answered with a table and the result is made of these tables, or a fetch failed and its
failure, as a failure of the search, is the result.
-/

namespace CriteriaSearch

/-- The exchange of a request that was answered with a table. -/
def Exchange.answered (r : Request) (t : Table) : Exchange := ⟨r, .ok t⟩

namespace Engine

variable {σ : Type} (x : Engine σ)

/-- The answer of an exchange is one of the source of the engine. -/
def Genuine (ex : Exchange) : Prop := ∃ s, (x.source.fetch ex.request s).1 = ex.answer

/-- A computation appends genuine exchanges to the journal, which are related to its result. -/
def Writes {α : Type} (m : StateM (Journal σ) α) (post : List Exchange → α → Prop) : Prop :=
  ∀ s journal, ∃ exchanges, (m (s, journal)).2.2 = journal ++ exchanges ∧
    (∀ ex ∈ exchanges, x.Genuine ex) ∧ post exchanges (m (s, journal)).1

namespace Writes

variable {x} {α β : Type}

theorem pure {a : α} {post : List Exchange → α → Prop} (h : post [] a) :
    x.Writes (Pure.pure a) post := fun _ journal =>
  ⟨[], (List.append_nil journal).symm, by simp, h⟩

theorem bind {m : StateM (Journal σ) α} {f : α → StateM (Journal σ) β}
    {post : List Exchange → α → Prop} {post' : List Exchange → β → Prop} (hm : x.Writes m post)
    (hf : ∀ xs a, post xs a → x.Writes (f a) fun ys b => post' (xs ++ ys) b) :
    x.Writes (m >>= f) post' := by
  intro s journal
  obtain ⟨xs, hxs, hgenuine, hpost⟩ := hm s journal
  obtain ⟨ys, hys, hgenuine', hpost'⟩ :=
    hf xs _ hpost (m (s, journal)).2.1 (m (s, journal)).2.2
  refine ⟨xs ++ ys, ?_, ?_, hpost'⟩
  · rw [← List.append_assoc, ← hxs]
    exact hys
  · intro ex hex
    exact (List.mem_append.mp hex).elim (hgenuine ex) (hgenuine' ex)

theorem mono {m : StateM (Journal σ) α} {post post' : List Exchange → α → Prop}
    (hm : x.Writes m post) (h : ∀ xs a, post xs a → post' xs a) : x.Writes m post' := by
  intro s journal
  obtain ⟨xs, hxs, hgenuine, hpost⟩ := hm s journal
  exact ⟨xs, hxs, hgenuine, h xs _ hpost⟩

end Writes

/-- A failed fetch as the failure of an expansion. -/
abbrev raised (f : Failure) : Failure := f.asSearchFailure .supplementFailed

theorem fetchAs_writes (wrap : String → ExecutionError) (r : Request) :
    x.Writes (x.journaled.fetchAs wrap r) fun exchanges result =>
      ∃ answer, exchanges = [⟨r, answer⟩] ∧ result = answer.mapError (·.asSearchFailure wrap) := by
  intro s journal
  exact ⟨[⟨r, (x.source.fetch r s).1⟩], rfl,
    fun ex hex => ⟨s, by rw [List.mem_singleton.mp hex]⟩, _, rfl, rfl⟩

theorem fetchSupplement_writes (r : Request) :
    x.Writes (x.journaled.fetchSupplement r) fun exchanges result =>
      ∃ answer, exchanges = [⟨r, answer⟩] ∧ result = answer.mapError raised :=
  x.fetchAs_writes .supplementFailed r

/-! ### Requests that do not depend on each other -/

/-- How the exchanges for requests decide the result: all requests are answered, or a fetch
failed. -/
inductive Settled (requests : List Request) :
    List Exchange → Except Failure (List Table) → Prop
  | answered {exchanges : List Exchange} {tables : List Table}
      (length_eq : tables.length = requests.length)
      (perm : exchanges.Perm (List.zipWith Exchange.answered requests tables)) :
      Settled requests exchanges (.ok tables)
  | failed {exchanges : List Exchange} {ex : Exchange} {f : Failure} (mem : ex ∈ exchanges)
      (answer_eq : ex.answer = .error f) : Settled requests exchanges (.error (raised f))

/-- Requests are carried out one after the other, up to the first failure. -/
inductive InTurn : List Request → List Exchange → Except Failure (List Table) → Prop
  | done : InTurn [] [] (.ok [])
  | failed (r : Request) (rs : List Request) (f : Failure) :
      InTurn (r :: rs) [⟨r, .error f⟩] (.error (raised f))
  | answered {rs : List Request} {exchanges : List Exchange} {result : Except Failure (List Table)}
      (r : Request) (t : Table) (rest : InTurn rs exchanges result) :
      InTurn (r :: rs) (.answered r t :: exchanges) (result.map (t :: ·))

theorem InTurn.settled {requests : List Request} {exchanges : List Exchange}
    {result : Except Failure (List Table)} (h : InTurn requests exchanges result) :
    Settled requests exchanges result := by
  induction h with
  | done => exact .answered rfl .nil
  | failed r rs f => exact .failed List.mem_cons_self rfl
  | answered r t rest ih =>
      cases ih with
      | answered length_eq perm =>
          exact .answered (congrArg Nat.succ length_eq) (perm.cons (Exchange.answered r t))
      | failed mem answer_eq => exact .failed (List.mem_cons_of_mem _ mem) answer_eq

theorem fetchEach_inTurn (requests : List Request) :
    x.Writes (x.journaled.fetchEach requests) (InTurn requests) := by
  induction requests with
  | nil => exact .pure .done
  | cons r rs ih =>
      refine (x.fetchSupplement_writes r).bind fun xs result hresult => ?_
      obtain ⟨answer, rfl, rfl⟩ := hresult
      cases answer with
      | error f => exact .pure (.failed r rs f)
      | ok t =>
          refine ih.bind fun ys rest hrest => .pure ?_
          rw [List.append_nil]
          exact .answered r t hrest

theorem fetchEach_writes (requests : List Request) :
    x.Writes (x.journaled.fetchEach requests) (Settled requests) :=
  (x.fetchEach_inTurn requests).mono fun _ _ h => h.settled

/-- The exchanges of a pool with the positions of their requests, in the order in which they were
taken up. -/
def TakenUp (requests : List Request) (positions : List Nat) (taken : List (Nat × Exchange)) :
    Prop :=
  taken.map Prod.fst = positions.filter (· < requests.length) ∧
    ∀ p ∈ taken, requests[p.1]? = some p.2.request

/-- The answers of a pool with the positions of their requests. -/
abbrev answersAt (taken : List (Nat × Exchange)) : List (Nat × Except Failure Table) :=
  taken.map fun p => (p.1, p.2.answer.mapError raised)

theorem fetchAt_writes (requests : List Request) (positions : List Nat) :
    x.Writes (x.journaled.fetchAt requests positions) fun exchanges answers =>
      ∃ taken, TakenUp requests positions taken ∧ exchanges = taken.map Prod.snd ∧
        answers = answersAt taken := by
  induction positions with
  | nil => exact .pure ⟨[], ⟨rfl, by simp⟩, rfl, rfl⟩
  | cons i is ih =>
      unfold fetchAt
      cases hr : requests[i]? with
      | none =>
          have hle : ¬ i < requests.length := by simpa using hr
          refine ih.mono fun xs answers h => ?_
          obtain ⟨taken, ⟨hpositions, hrequests⟩, hxs, hanswers⟩ := h
          exact ⟨taken, ⟨by simpa [hle] using hpositions, hrequests⟩, hxs, hanswers⟩
      | some r =>
          have hlt : i < requests.length := (List.getElem?_eq_some_iff.mp hr).1
          refine (x.fetchSupplement_writes r).bind fun xs result hresult => ?_
          obtain ⟨answer, rfl, rfl⟩ := hresult
          refine ih.bind fun ys answers h => .pure ?_
          obtain ⟨taken, ⟨hpositions, hrequests⟩, rfl, rfl⟩ := h
          refine ⟨(i, ⟨r, answer⟩) :: taken, ⟨by simp [hlt, hpositions], ?_⟩, by simp, rfl⟩
          intro p hp
          rcases List.mem_cons.mp hp with rfl | hp
          · exact hr
          · exact hrequests p hp

namespace TakenUp

variable {requests : List Request} {positions : List Nat} {taken : List (Nat × Exchange)}

theorem perm_range (h : TakenUp requests positions taken)
    (hcomplete : positions.Perm (List.range requests.length)) :
    (taken.map Prod.fst).Perm (List.range requests.length) := by
  rw [h.1]
  refine (hcomplete.filter _).trans (List.Perm.of_eq ?_)
  exact List.filter_eq_self.mpr fun i hi => by simpa using hi

theorem lookup_answersAt (h : TakenUp requests positions taken)
    (hcomplete : positions.Perm (List.range requests.length)) {p : Nat × Exchange}
    (hp : p ∈ taken) : (answersAt taken).lookup p.1 = some (p.2.answer.mapError raised) := by
  refine lookup_eq_some_of_mem ?_ (List.mem_map.mpr ⟨p, hp, rfl⟩)
  rw [List.map_map]
  exact (h.perm_range hcomplete).nodup_iff.mpr List.nodup_range

theorem getElem?_collect (h : TakenUp requests positions taken)
    (hcomplete : positions.Perm (List.range requests.length)) {tables : List Table}
    (hcollect : collect requests (answersAt taken) = .ok tables) {p : Nat × Exchange}
    (hp : p ∈ taken) :
    (List.zipWith Exchange.answered requests tables)[p.1]? = some p.2 := by
  have htables := mapM_eq_ok_iff.mp hcollect
  have hlt : p.1 < requests.length := by
    have hmem := (h.perm_range hcomplete).mem_iff.mp (List.mem_map.mpr ⟨p, hp, rfl⟩)
    simpa using hmem
  have hat := congrArg (·[p.1]?) htables
  simp only [List.getElem?_map, List.getElem?_range hlt, Option.map_some,
    h.lookup_answersAt hcomplete hp, Option.getD_some] at hat
  obtain ⟨t, ht, hanswer⟩ := Option.map_eq_some_iff.mp hat.symm
  rw [List.getElem?_zipWith, h.2 p hp, ht]
  obtain ⟨i, r, answer⟩ := p
  cases answer with
  | error f => simp [Except.mapError] at hanswer
  | ok u =>
      obtain rfl : t = u := Except.ok.inj hanswer
      rfl

end TakenUp

/-- A pool settles requests whatever the order in which it takes them up: every position is taken
up once, and its answer is found there again. -/
theorem collect_settled {requests : List Request} {positions : List Nat}
    (hcomplete : positions.Perm (List.range requests.length)) {taken : List (Nat × Exchange)}
    (htaken : TakenUp requests positions taken) :
    Settled requests (taken.map Prod.snd) (collect requests (answersAt taken)) := by
  have hperm := htaken.perm_range hcomplete
  cases hcollect : collect requests (answersAt taken) with
  | error f =>
      obtain ⟨i, hi, hf⟩ := exists_of_mapM_eq_error hcollect
      obtain ⟨p, hp, rfl⟩ := List.mem_map.mp (hperm.mem_iff.mpr hi)
      rw [htaken.lookup_answersAt hcomplete hp, Option.getD_some] at hf
      cases hanswer : p.2.answer with
      | ok t => simp [hanswer, Except.mapError] at hf
      | error g =>
          rw [hanswer] at hf
          obtain rfl := Except.error.inj hf
          exact .failed (List.mem_map.mpr ⟨p, hp, rfl⟩) hanswer
  | ok tables =>
      have hlength : tables.length = requests.length := by
        simpa using (congrArg List.length (mapM_eq_ok_iff.mp hcollect)).symm
      refine .answered hlength ?_
      -- Both lists are read at the same positions, once as they were taken up and once in order.
      have hread : taken.map Prod.snd = (taken.map Prod.fst).filterMap fun i =>
          (List.zipWith Exchange.answered requests tables)[i]? := by
        rw [List.filterMap_map]
        refine (List.filterMap_eq_map_iff_forall_eq_some.mpr fun p hp => ?_).symm
        exact htaken.getElem?_collect hcomplete hcollect hp
      have hall := filterMap_range_getElem? (List.zipWith Exchange.answered requests tables)
      rw [List.length_zipWith, hlength, Nat.min_self] at hall
      rw [hread]
      exact (hperm.filterMap _).trans (List.Perm.of_eq hall)

theorem fetchAll_writes (requests : List Request) :
    x.Writes (x.journaled.fetchAll requests) (Settled requests) := by
  unfold fetchAll
  dsimp only [journaled_schedule]
  cases x.schedule with
  | sequential => exact x.fetchEach_writes requests
  | pooled order complete =>
      by_cases hone : requests.length ≤ 1
      · simpa only [if_pos hone] using x.fetchEach_writes requests
      · simp only [if_neg hone]
        refine (x.fetchAt_writes requests (order requests.length)).bind fun xs answers h =>
          .pure ?_
        obtain ⟨taken, htaken, rfl, rfl⟩ := h
        rw [List.append_nil]
        exact collect_settled (complete requests.length) htaken

end Engine

end CriteriaSearch
