import CriteriaSearch.Page.Expand
import CriteriaSearch.Proofs.Page.Arrangement

/-!
# Engines in lockstep

Two computations run in lockstep if related states lead to related results and related states. All
that an expansion takes from its engine are fetches: engines whose fetches run in lockstep expand in
lockstep. The pages may differ, as long as the same parents and children are missing on them.
-/

namespace CriteriaSearch

namespace Engine

variable {σ τ : Type}

/-- The second computation starts from the result and the state of the first. -/
theorem bind_apply {α β : Type} (m : StateM σ α) (f : α → StateM σ β) (s : σ) :
    (m >>= f) s = f (m s).1 (m s).2 := rfl

def Lockstep {α β : Type} (R : σ → τ → Prop) (S : α → β → Prop) (m : StateM σ α)
    (m' : StateM τ β) : Prop :=
  ∀ s s', R s s' → S (m s).1 (m' s').1 ∧ R (m s).2 (m' s').2

namespace Lockstep

variable {α β γ δ : Type} {R : σ → τ → Prop} {S : α → β → Prop} {T : γ → δ → Prop}

theorem pure {a : α} {b : β} (h : S a b) :
    Lockstep R S (Pure.pure a : StateM σ α) (Pure.pure b : StateM τ β) := fun _ _ hs => ⟨h, hs⟩

theorem bind {m : StateM σ α} {m' : StateM τ β} {f : α → StateM σ γ} {f' : β → StateM τ δ}
    (hm : Lockstep R S m m') (hf : ∀ a b, S a b → Lockstep R T (f a) (f' b)) :
    Lockstep R T (m >>= f) (m' >>= f') := by
  intro s s' hs
  obtain ⟨hresult, hstate⟩ := hm s s' hs
  exact hf _ _ hresult _ _ hstate

theorem bind_eq {m : StateM σ α} {m' : StateM τ α} {f : α → StateM σ γ} {f' : α → StateM τ δ}
    (hm : Lockstep R Eq m m') (hf : ∀ a, Lockstep R T (f a) (f' a)) :
    Lockstep R T (m >>= f) (m' >>= f') := by
  apply hm.bind
  rintro a b rfl
  exact hf a

end Lockstep

/-- Engines that ask for the same, and whose fetches run in lockstep. -/
structure Paired (R : σ → τ → Prop) (x : Engine σ) (y : Engine τ) : Prop where
  settings_eq : x.settings = y.settings
  hierarchy_eq : x.hierarchy = y.hierarchy
  room_eq : x.room = y.room
  fetchSupplement : ∀ r, Lockstep R Eq (x.fetchSupplement r) (y.fetchSupplement r)
  fetchAll : ∀ requests, Lockstep R Eq (x.fetchAll requests) (y.fetchAll requests)

/-! ### Fetches -/

section Fetches

variable {R : σ → τ → Prop} {x : Engine σ} {y : Engine τ}
  (hsource : ∀ r, Lockstep R Eq (x.source.fetch r) (y.source.fetch r))

include hsource

theorem fetchSupplement_lockstep (r : Request) :
    Lockstep R Eq (x.fetchSupplement r) (y.fetchSupplement r) :=
  (hsource r).bind_eq fun _ => .pure rfl

theorem fetchEach_lockstep (requests : List Request) :
    Lockstep R Eq (x.fetchEach requests) (y.fetchEach requests) := by
  induction requests with
  | nil => exact .pure rfl
  | cons r rs ih =>
      apply (fetchSupplement_lockstep hsource r).bind_eq
      intro answer
      cases answer with
      | error f => exact .pure rfl
      | ok t => exact ih.bind_eq fun _ => .pure rfl

theorem fetchAt_lockstep (requests : List Request) (positions : List Nat) :
    Lockstep R Eq (x.fetchAt requests positions) (y.fetchAt requests positions) := by
  induction positions with
  | nil => exact .pure rfl
  | cons i is ih =>
      unfold fetchAt
      cases requests[i]? with
      | none => exact ih
      | some r =>
          exact (fetchSupplement_lockstep hsource r).bind_eq fun _ =>
            ih.bind_eq fun _ => .pure rfl

theorem fetchAll_lockstep (hschedule : x.schedule = y.schedule) (requests : List Request) :
    Lockstep R Eq (x.fetchAll requests) (y.fetchAll requests) := by
  unfold fetchAll
  rw [← hschedule]
  cases x.schedule with
  | sequential => exact fetchEach_lockstep hsource requests
  | pooled order complete =>
      by_cases hone : requests.length ≤ 1
      · simp only [if_pos hone]
        exact fetchEach_lockstep hsource requests
      · simp only [if_neg hone]
        exact (fetchAt_lockstep hsource requests _).bind_eq fun _ => .pure rfl

/-- It is enough that the sources run in lockstep, under the same schedule. -/
theorem Paired.of_source (hsettings : x.settings = y.settings)
    (hhierarchy : x.hierarchy = y.hierarchy) (hroom : x.room = y.room)
    (hschedule : x.schedule = y.schedule) : Paired R x y :=
  ⟨hsettings, hhierarchy, hroom, fetchSupplement_lockstep hsource,
    fetchAll_lockstep hsource hschedule⟩

end Fetches

/-! ### Pages -/

/-- On two pages that can be read the same parents are missing, and the same children of the same
parents are known. -/
structure SameGaps (h : Hierarchy) (e : Expansion) (page page' : List Node) : Prop where
  legible : ∀ n ∈ page, h.IsLegible n.row
  legible' : ∀ n ∈ page', h.IsLegible n.row
  missingParents : e.includesParents = true →
    Supplement.missingParents page = Supplement.missingParents page'
  parentIds : e.includesChildren = true → ∀ found,
    Supplement.parentIds (page ++ found) = Supplement.parentIds (page' ++ found)
  knownChildren : e.includesChildren = true → ∀ found parent,
    Supplement.knownChildren (page ++ found) parent =
      Supplement.knownChildren (page' ++ found) parent

theorem SameGaps.refl {h : Hierarchy} {page : List Node}
    (hlegible : ∀ n ∈ page, h.IsLegible n.row) (e : Expansion) : SameGaps h e page page :=
  ⟨hlegible, hlegible, fun _ => rfl, fun _ _ => rfl, fun _ _ _ => rfl⟩

/-- The same cells of known rows can be read. -/
theorem SameGaps.hasText {h : Hierarchy} {e : Expansion} {page page' : List Node}
    (hgaps : SameGaps h e page page') (found : List Node) {names : List String}
    (hnames : names ⊆ h.keyNames) :
    (∀ row ∈ (page ++ found).map Node.row, ∀ name ∈ names, Hierarchy.HasText row name) ↔
      ∀ row ∈ (page' ++ found).map Node.row, ∀ name ∈ names, Hierarchy.HasText row name := by
  have hread : ∀ rows : List Node, (∀ n ∈ rows, h.IsLegible n.row) →
      ∀ row ∈ rows.map Node.row, ∀ name ∈ names, Hierarchy.HasText row name := by
    intro rows hrows row hrow name hname
    obtain ⟨n, hn, rfl⟩ := List.mem_map.mp hrow
    exact hrows n hn name (hnames hname)
  rw [List.map_append, List.map_append, List.forall_mem_append, List.forall_mem_append]
  exact and_congr_left fun _ => iff_of_true (hread page hgaps.legible) (hread page' hgaps.legible')

/-- Gathering for two pages ends with the same failure, or with the same parents and children. -/
inductive GatheredAlike (h : Hierarchy) (e : Expansion) (page page' : List Node) :
    Except Failure Family × List ExpansionNote → Except Failure Family × List ExpansionNote → Prop
  | failed (cause : Failure) (notes : List ExpansionNote) :
      GatheredAlike h e page page' (.error cause, notes) (.error cause, notes)
  | gathered (parents : List Node) (children : Named (List Node)) (notes : List ExpansionNote) :
      GatheredAlike h e page page' (.ok ⟨h, e, page, parents, children⟩, notes)
        (.ok ⟨h, e, page', parents, children⟩, notes)

namespace Paired

variable {R : σ → τ → Prop} {x : Engine σ} {y : Engine τ} (h : Paired R x y) {e : Expansion}
  {page page' known known' : List Node}

include h

theorem parentRequest_eq (ids : List String) : x.parentRequest ids = y.parentRequest ids := by
  simp only [parentRequest, h.settings_eq, h.hierarchy_eq]

theorem nodes_eq (t : Table) : x.nodes t = y.nodes t := by simp only [nodes, h.hierarchy_eq]

theorem childRequests_eq
    (hknown : ∀ p, Supplement.knownChildren known p = Supplement.knownChildren known' p)
    (parents : List String) :
    x.childRequests e known parents = y.childRequests e known' parents := by
  have hcriteria : ∀ p, Supplement.childCriteria x.hierarchy known p =
      Supplement.childCriteria y.hierarchy known' p := by
    intro p
    unfold Supplement.childCriteria
    rw [hknown p, h.hierarchy_eq]
  simp only [childRequests, hcriteria, h.settings_eq]

theorem fetchParents
    (hmissing : Supplement.missingParents page = Supplement.missingParents page') :
    Lockstep R Eq (x.fetchParents page) (y.fetchParents page') := by
  unfold Engine.fetchParents
  rw [← hmissing]
  cases Supplement.missingParents page with
  | nil => exact .pure rfl
  | cons id ids =>
      dsimp only
      rw [← h.parentRequest_eq]
      cases x.parentRequest (id :: ids) with
      | error cause => exact .pure rfl
      | ok r =>
          apply (h.fetchSupplement r).bind_eq
          intro answer
          simp only [h.nodes_eq]
          exact .pure rfl

theorem requestChildren_eq (hgaps : SameGaps x.hierarchy e page page')
    (hon : e.includesChildren = true) (found : List Node) :
    x.requestChildren e (page ++ found) = y.requestChildren e (page' ++ found) := by
  have hid : [x.hierarchy.id] ⊆ x.hierarchy.keyNames := by simp [Hierarchy.keyNames]
  have hids := hgaps.hasText found hid
  have hkeys := hgaps.hasText found (List.Subset.refl _)
  unfold requestChildren
  dsimp only
  rw [← h.hierarchy_eq, Hierarchy.texts_bind_congr hids, hgaps.parentIds hon found]
  cases Supplement.parentIds (page' ++ found) with
  | nil => rfl
  | cons id ids =>
      dsimp only
      rw [Hierarchy.texts_bind_congr hkeys, h.childRequests_eq (hgaps.knownChildren hon found)]

theorem readChildren_eq (hids : Supplement.parentIds known = Supplement.parentIds known') :
    x.readChildren known = y.readChildren known' := by
  funext tables
  simp only [readChildren, hids, h.nodes_eq, h.hierarchy_eq]

theorem fetchChildren (hgaps : SameGaps x.hierarchy e page page')
    (hon : e.includesChildren = true) (found : List Node) :
    Lockstep R Eq (x.fetchChildren e (page ++ found)) (y.fetchChildren e (page' ++ found)) := by
  unfold Engine.fetchChildren
  rw [← h.requestChildren_eq hgaps hon found, h.readChildren_eq (hgaps.parentIds hon found)]
  cases x.requestChildren e (page ++ found) with
  | error cause => exact .pure rfl
  | ok requests => exact (h.fetchAll requests).bind_eq fun _ => .pure rfl

theorem supply (hgaps : SameGaps x.hierarchy e page page') :
    Lockstep R (GatheredAlike x.hierarchy e page page') (x.supply page e) (y.supply page' e) := by
  unfold Engine.supply
  apply Lockstep.bind_eq
  · cases hon : e.includesParents with
    | false => exact .pure rfl
    | true => exact h.fetchParents (hgaps.missingParents hon)
  · intro parents
    cases parents with
    | error cause => exact .pure (.failed cause [])
    | ok found =>
        apply Lockstep.bind_eq
        · cases hon : e.includesChildren with
          | false => exact .pure rfl
          | true => exact h.fetchChildren hgaps hon _
        · intro children
          cases children with
          | error cause => exact .pure (.failed cause _)
          | ok children =>
              rw [← h.hierarchy_eq]
              exact .pure (.gathered _ children _)

theorem supply_eq (hlegible : ∀ n ∈ page, x.hierarchy.IsLegible n.row) :
    Lockstep R Eq (x.supply page e) (y.supply page e) := by
  intro s s' hs
  obtain ⟨hresult, hstate⟩ := h.supply (.refl hlegible e) s s' hs
  refine ⟨?_, hstate⟩
  revert hresult
  generalize (x.supply page e s).1 = a
  generalize (y.supply page e s').1 = b
  intro hresult
  cases hresult with
  | failed cause notes => rfl
  | gathered parents children notes => rfl

theorem gather_eq (rows : List Row) : Lockstep R Eq (x.gather rows e) (y.gather rows e) := by
  unfold Engine.gather
  rw [← h.hierarchy_eq, ← h.room_eq]
  cases harranged : x.hierarchy.arrange x.room rows with
  | error cause => exact .pure rfl
  | ok page =>
      exact (h.supply_eq (Hierarchy.legible_of_arrange harranged)).bind_eq fun _ => .pure rfl

end Paired

/-! ### Expansions -/

/-- The cases of an expansion in place, with the one write at the end of the last. -/
theorem expandInPlace_run (x : Engine σ) (e : Expansion) (t : Table) :
    (x.expandInPlace e).run t =
      if e.mode = .none ∨ t.rows.isEmpty then pure ((.ok (), []), t)
      else if !t.hasColumn x.hierarchy.id then
        pure ((.ok (), [.skipped t.name x.hierarchy.id]), t)
      else x.gather t.rows e >>= fun
        | (.error cause, notes) => pure ((.error cause, notes), t)
        | (.ok f, notes) =>
          let after := withMerged x.hierarchy t f.merge
          pure ((.ok (), notes ++ mergeNotes x.hierarchy t f.merge after), after) := by
  simp only [expandInPlace, StateT.run_bind, StateT.run_get, pure_bind]
  by_cases hidle : e.mode = .none ∨ t.rows.isEmpty
  · rw [if_pos hidle, if_pos hidle]
    rfl
  · rw [if_neg hidle, if_neg hidle]
    by_cases hid : !t.hasColumn x.hierarchy.id
    · rw [if_pos hid, if_pos hid]
      rfl
    · rw [if_neg hid, if_neg hid]
      simp only [StateT.run_bind, StateT.run_monadLift, bind_assoc, pure_bind]
      refine congrArg _ (funext fun gathered => ?_)
      obtain ⟨family, notes⟩ := gathered
      cases family <;> rfl

namespace Paired

variable {R : σ → τ → Prop} {x : Engine σ} {y : Engine τ} (h : Paired R x y)

include h

theorem expandInPlace (e : Expansion) (t : Table) :
    Lockstep R Eq ((x.expandInPlace e).run t) ((y.expandInPlace e).run t) := by
  rw [expandInPlace_run, expandInPlace_run, ← h.hierarchy_eq]
  by_cases hidle : e.mode = .none ∨ t.rows.isEmpty
  · rw [if_pos hidle, if_pos hidle]
    exact .pure rfl
  · rw [if_neg hidle, if_neg hidle]
    by_cases hid : !t.hasColumn x.hierarchy.id
    · rw [if_pos hid, if_pos hid]
      exact .pure rfl
    · rw [if_neg hid, if_neg hid]
      apply (h.gather_eq t.rows).bind_eq
      rintro ⟨family, notes⟩
      cases family with
      | error cause => exact .pure rfl
      | ok f => exact .pure rfl

/-- Paired engines make the same report on the same table. -/
theorem expand (t : Table) (e : Expansion) : Lockstep R Eq (x.expand t e) (y.expand t e) :=
  (h.expandInPlace e t).bind_eq fun _ => .pure rfl

end Paired

end Engine

end CriteriaSearch
