import CriteriaSearch.Proofs.Page.Order
import Mathlib.Data.List.Nodup
import Mathlib.Order.WellFoundedSet

/-!
# Visits of a page

A visit splits where its stack does, so the rows visited under a row stand together right behind it.
Without a cycle of parents all rows are reached from those whose parent is not on the page. Then a
child stands behind a row with the id of its parent, and in the run of the first such row.
-/

namespace CriteriaSearch

namespace Reconcile

variable {α : Type} [DecidableEq α] (id parent : α → String)

/-! ### Visits in parts -/

theorem visit_append (rows stack stack' unseen : List α) :
    visit id parent rows (stack ++ stack') unseen =
      visit id parent rows stack unseen ++
        visit id parent rows stack' (unseen.diff (visit id parent rows stack unseen)) := by
  induction stack, unseen using visit.induct id parent rows with
  | case1 unseen => simp [visit]
  | case2 r stack unseen hr ih =>
      rw [List.append_assoc] at ih
      rw [List.cons_append, visit, if_pos hr, ih, visit, if_pos hr, List.cons_append,
        List.diff_cons]
  | case3 r stack unseen hr ih =>
      rw [List.cons_append, visit, if_neg hr, ih, visit, if_neg hr]

theorem visit_subset (rows stack unseen : List α) :
    visit id parent rows stack unseen ⊆ unseen := by
  induction stack, unseen using visit.induct id parent rows with
  | case1 unseen => simp [visit]
  | case2 r stack unseen hr ih =>
      rw [visit, if_pos hr]
      exact List.cons_subset.mpr ⟨hr, fun c hc => List.mem_of_mem_erase (ih hc)⟩
  | case3 r stack unseen hr ih => rwa [visit, if_neg hr]

theorem mem_visit (rows : List α) {stack unseen : List α} {c : α} (hc : c ∈ stack)
    (hunseen : c ∈ unseen) : c ∈ visit id parent rows stack unseen := by
  induction stack, unseen using visit.induct id parent rows with
  | case1 unseen => cases hc
  | case2 r stack unseen hr ih =>
      rw [visit, if_pos hr]
      by_cases heq : c = r
      · exact heq ▸ List.mem_cons_self
      · have hstack : c ∈ children id parent rows r ++ stack :=
          List.mem_append_right _ ((List.mem_cons.mp hc).resolve_left heq)
        exact List.mem_cons_of_mem r (ih hstack ((List.mem_erase_of_ne heq).mpr hunseen))
  | case3 r stack unseen hr ih =>
      rw [visit, if_neg hr]
      refine ih ((List.mem_cons.mp hc).resolve_left fun heq => hr (heq ▸ hunseen)) hunseen

theorem visit_eq_nil {rows stack unseen : List α} (h : ∀ c ∈ stack, c ∉ unseen) :
    visit id parent rows stack unseen = [] := by
  induction stack with
  | nil => rw [visit]
  | cons r stack ih =>
      rw [visit, if_neg (h r List.mem_cons_self)]
      exact ih fun c hc => h c (List.mem_cons_of_mem r hc)

/-- What is visited under a row stands right behind it. -/
theorem visit_split {rows stack unseen pre rest : List α} {r : α}
    (h : visit id parent rows stack unseen = pre ++ r :: rest) :
    ∃ post, rest = visit id parent rows (children id parent rows r) ((unseen.diff pre).erase r) ++
      post := by
  induction stack, unseen using visit.induct id parent rows generalizing pre with
  | case1 unseen => simp [visit] at h
  | case2 q stack unseen hq ih =>
      rw [visit, if_pos hq] at h
      cases pre with
      | nil =>
          obtain ⟨rfl, rfl⟩ := List.cons.inj h
          exact ⟨_, visit_append id parent rows _ stack _⟩
      | cons p pre =>
          obtain ⟨rfl, hrest⟩ := List.cons.inj h
          rw [List.diff_cons]
          exact ih hrest
  | case3 q stack unseen hq ih =>
      rw [visit, if_neg hq] at h
      exact ih h

/-- What holds of the rows of a stack and goes over from a row to those under it holds of all rows
visited. -/
theorem visit_forall (rows stack unseen : List α) {P : α → Prop} (hstack : ∀ c ∈ stack, P c)
    (hdown : ∀ r, P r → ∀ c ∈ children id parent rows r, P c) :
    ∀ c ∈ visit id parent rows stack unseen, P c := by
  induction stack, unseen using visit.induct id parent rows with
  | case1 unseen => simp [visit]
  | case2 r stack unseen hr ih =>
      have hhead := hstack r List.mem_cons_self
      rw [visit, if_pos hr]
      refine List.forall_mem_cons.mpr ⟨hhead, ih fun c hc => ?_⟩
      rcases List.mem_append.mp hc with hc | hc
      · exact hdown r hhead c hc
      · exact hstack c (List.mem_cons_of_mem r hc)
  | case3 r stack unseen hr ih =>
      rw [visit, if_neg hr]
      exact ih fun c hc => hstack c (List.mem_cons_of_mem r hc)

/-- The rows under a visited row are visited. -/
theorem mem_visit_of_mem_children {rows stack unseen : List α} {r c : α}
    (hr : r ∈ visit id parent rows stack unseen) (hc : c ∈ children id parent rows r)
    (hunseen : c ∈ unseen) : c ∈ visit id parent rows stack unseen := by
  obtain ⟨pre, rest, hsplit⟩ := List.append_of_mem hr
  obtain ⟨post, hrest⟩ := visit_split id parent hsplit
  rw [hsplit]
  by_cases hpre : c ∈ pre
  · exact List.mem_append_left _ hpre
  · by_cases heq : c = r
    · exact List.mem_append_right pre (heq ▸ List.mem_cons_self)
    · have hleft : c ∈ (unseen.diff pre).erase r :=
        (List.mem_erase_of_ne heq).mpr (List.mem_diff_of_mem hunseen hpre)
      rw [hrest]
      exact List.mem_append_right pre
        (List.mem_cons_of_mem r (List.mem_append_left post (mem_visit id parent rows hc hleft)))

omit [DecidableEq α] in
theorem mem_children {rows : List α} {r c : α} :
    c ∈ children id parent rows r ↔
      c ∈ rows ∧ parent c ≠ "" ∧ parent c ≠ id c ∧ parent c = id r := by
  simp [children, and_assoc]

omit [DecidableEq α] in
theorem isChild_iff {rows : List α} {r : α} :
    isChild id parent rows r = true ↔
      parent r ≠ "" ∧ parent r ≠ id r ∧ ∃ p ∈ rows, id p = parent r := by
  simp [isChild, and_assoc]

/-! ### Cycles -/

/-- A row with the id `a` names the parent `b`. -/
def Under (rows : List α) (a b : String) : Prop :=
  a ≠ "" ∧ b ≠ "" ∧ ∃ r ∈ rows, id r = a ∧ parent r = b

/-- No chain of parents comes back to where it began. -/
def Acyclic (rows : List α) : Prop :=
  ∀ a, ¬ Relation.TransGen (Under id parent rows) a a

section Acyclic

variable {id parent} {rows : List α}

omit [DecidableEq α]

theorem Acyclic.mono {rows' : List α} (h : Acyclic id parent rows)
    (hsub : Under id parent rows' ≤ Under id parent rows) : Acyclic id parent rows' :=
  fun a ha => h a (Relation.TransGen.mono hsub a a ha)

theorem Acyclic.of_rank (rank : String → Nat)
    (h : ∀ r ∈ rows, id r ≠ "" → parent r ≠ "" → rank (parent r) < rank (id r)) :
    Acyclic id parent rows := by
  have hchain : ∀ a b, Relation.TransGen (Under id parent rows) a b → rank b < rank a := by
    intro a b hab
    induction hab with
    | single hstep =>
        obtain ⟨ha, hb, r, hr, rfl, rfl⟩ := hstep
        exact h r hr ha hb
    | tail _ hstep ih =>
        obtain ⟨ha, hb, r, hr, rfl, rfl⟩ := hstep
        exact (h r hr ha hb).trans ih
  exact fun a ha => (hchain a a ha).false

theorem Acyclic.parent_ne (h : Acyclic id parent rows) {r : α} (hr : r ∈ rows)
    (hparent : parent r ≠ "") : parent r ≠ id r := by
  intro heq
  refine h (id r) (.single ⟨heq ▸ hparent, heq ▸ hparent, r, hr, rfl, heq⟩)

/-- Induction from the ids that name no parent on. -/
theorem Acyclic.induction (h : Acyclic id parent rows) {P : String → Prop}
    (step : ∀ a, (∀ b, Under id parent rows a b → P b) → P a) (a : String) : P a := by
  -- Chains of parents are well-founded on the ids that occur, which are finitely many.
  have hstrict : IsStrictOrder String
      fun b a => Relation.TransGen (Under id parent rows) a b :=
    { irrefl := h
      trans := fun _ _ _ hba hcb => hcb.trans hba }
  have hfounded : {a | a ∈ rows.map id ++ rows.map parent}.WellFoundedOn
      fun b a => Relation.TransGen (Under id parent rows) a b :=
    (List.finite_toSet _).wellFoundedOn
  have hin : ∀ {a b}, Under id parent rows a b →
      a ∈ rows.map id ++ rows.map parent ∧ b ∈ rows.map id ++ rows.map parent := by
    rintro a b ⟨-, -, r, hr, rfl, rfl⟩
    exact ⟨List.mem_append_left _ (List.mem_map_of_mem hr),
      List.mem_append_right _ (List.mem_map_of_mem hr)⟩
  by_cases ha : a ∈ rows.map id ++ rows.map parent
  · refine hfounded.induction ha fun a _ ih => step a fun b hab => ?_
    exact ih b (hin hab).2 (.single hab)
  · exact step a fun b hab => absurd (hin hab).1 ha

end Acyclic

/-! ### The order of a page without cycles -/

section Order

variable {id parent} {rows : List α}

/-- All rows are reached from those whose parent is not on the page. -/
theorem Acyclic.order_eq (h : Acyclic id parent rows) (hnodup : rows.Nodup) :
    order id parent rows =
      visit id parent rows (rows.filter (!isChild id parent rows ·)) rows := by
  have hreached : ∀ a, ∀ r ∈ rows, parent r = a →
      r ∈ visit id parent rows (rows.filter (!isChild id parent rows ·)) rows := by
    -- The induction is on the parent: a row with its id is visited, and the row under it then too.
    refine h.induction fun a ih r hr hparent => ?_
    cases hchild : isChild id parent rows r with
    | false =>
        exact mem_visit id parent rows (List.mem_filter.mpr ⟨hr, by rw [hchild]; rfl⟩) hr
    | true =>
        obtain ⟨hne, hself, p, hp, hid⟩ := (isChild_iff id parent).mp hchild
        have hpv : p ∈ visit id parent rows (rows.filter (!isChild id parent rows ·)) rows := by
          by_cases htop : parent p = ""
          · have hroot : isChild id parent rows p = false := by simp [isChild, htop]
            exact mem_visit id parent rows (List.mem_filter.mpr ⟨hp, by rw [hroot]; rfl⟩) hp
          · exact ih (parent p)
              ⟨hparent ▸ hne, htop, p, hp, hid.trans hparent, rfl⟩ p hp rfl
        have hmem := (mem_children id parent).mpr ⟨hr, hne, hself, hid.symm⟩
        exact mem_visit_of_mem_children id parent hpv hmem hr
  have hrest : ∀ c ∈ rows,
      c ∉ rows.diff (visit id parent rows (rows.filter (!isChild id parent rows ·)) rows) :=
    fun c hc hdiff => (hnodup.mem_sdiff_iff.mp hdiff).2 (hreached _ c hc rfl)
  rw [order, visit_append, visit_eq_nil id parent hrest, List.append_nil]

/-- Behind a stack without children every child comes after a row with the id of its parent. -/
theorem visit_parent_before {stack unseen pre post seen : List α} {c : α}
    (hstack : ∀ c ∈ stack, isChild id parent rows c = true → ∃ m ∈ seen, id m = parent c)
    (h : visit id parent rows stack unseen = pre ++ c :: post)
    (hchild : isChild id parent rows c = true) : ∃ m ∈ seen ++ pre, id m = parent c := by
  induction stack, unseen using visit.induct id parent rows generalizing seen pre with
  | case1 unseen => simp [visit] at h
  | case2 r stack unseen hr ih =>
      rw [visit, if_pos hr] at h
      cases pre with
      | nil =>
          obtain ⟨rfl, -⟩ := List.cons.inj h
          rw [List.append_nil]
          exact hstack r List.mem_cons_self hchild
      | cons p pre =>
          obtain ⟨rfl, hrest⟩ := List.cons.inj h
          -- What is pushed are rows under `r`, which has been visited from now on.
          have hnext : ∀ c ∈ children id parent rows r ++ stack,
              isChild id parent rows c = true → ∃ m ∈ seen ++ [r], id m = parent c := by
            intro c hc hcchild
            rcases List.mem_append.mp hc with hc | hc
            · exact ⟨r, by simp, ((mem_children id parent).mp hc).2.2.2.symm⟩
            · obtain ⟨m, hm, hid⟩ := hstack c (List.mem_cons_of_mem r hc) hcchild
              exact ⟨m, List.mem_append_left _ hm, hid⟩
          have hbefore := ih hnext hrest
          rwa [List.append_assoc, List.singleton_append] at hbefore
  | case3 r stack unseen hr ih =>
      rw [visit, if_neg hr] at h
      exact ih (fun c hc => hstack c (List.mem_cons_of_mem r hc)) h

theorem Acyclic.parent_before (h : Acyclic id parent rows) (hnodup : rows.Nodup)
    {pre post : List α} {c : α} (hsplit : order id parent rows = pre ++ c :: post)
    (hchild : isChild id parent rows c = true) : ∃ m ∈ pre, id m = parent c := by
  rw [h.order_eq hnodup] at hsplit
  have hroots : ∀ c ∈ rows.filter (!isChild id parent rows ·),
      isChild id parent rows c = true → ∃ m ∈ ([] : List α), id m = parent c := by
    intro c hc hcchild
    have hnot := (List.mem_filter.mp hc).2
    rw [hcchild] at hnot
    cases hnot
  simpa using visit_parent_before hroots hsplit hchild

/-- The run of an id in rows: it starts with the first row that has the id, holds all rows that name
it as their parent, and the chain of parents of each row in it leads there. -/
def HasRun (id parent : α → String) (rows : List α) (target : String) (out : List α) : Prop :=
  ∃ pre p run post, out = pre ++ p :: (run ++ post) ∧ id p = target ∧
    (∀ m ∈ pre, id m ≠ target) ∧ (∀ m ∈ pre ++ post, parent m ≠ target) ∧
    ∀ m ∈ run, Relation.ReflTransGen (Under id parent rows) (parent m) target

omit [DecidableEq α] in
theorem Acyclic.mem_children_of_parent (h : Acyclic id parent rows) {p c : α} (hc : c ∈ rows)
    (hne : parent c ≠ "") (hparent : parent c = id p) : c ∈ children id parent rows p :=
  (mem_children id parent).mpr ⟨hc, hne, h.parent_ne hc hne, hparent⟩

/-- A row before the first one with the id of its parent would come after another one. -/
theorem Acyclic.parent_ne_of_mem_pre (h : Acyclic id parent rows) (hnodup : rows.Nodup)
    {pre rest : List α} {p : α} (hsplit : order id parent rows = pre ++ p :: rest)
    (hne : id p ≠ "") (hfirst : ∀ m ∈ pre, id m ≠ id p) : ∀ m ∈ pre, parent m ≠ id p := by
  intro m hm hparent
  have hrows : ∀ q ∈ pre ++ p :: rest, q ∈ rows := fun q hq =>
    (order_perm id parent hnodup).mem_iff.mp (hsplit ▸ hq)
  have hmrows := hrows m (List.mem_append_left _ hm)
  have hp := hrows p (List.mem_append_right pre List.mem_cons_self)
  have hmne : parent m ≠ "" := hparent ▸ hne
  have hchild : isChild id parent rows m = true :=
    (isChild_iff id parent).mpr ⟨hmne, h.parent_ne hmrows hmne, p, hp, hparent.symm⟩
  obtain ⟨front, back, rfl⟩ := List.append_of_mem hm
  rw [List.append_assoc, List.cons_append] at hsplit
  obtain ⟨k, hk, hkid⟩ := h.parent_before hnodup hsplit hchild
  exact hfirst k (List.mem_append_left _ hk) (hkid.trans hparent)

/-- All rows under a row that are not there yet are in its run. -/
theorem Acyclic.parent_ne_of_mem_post (h : Acyclic id parent rows) (hnodup : rows.Nodup)
    {pre post : List α} {p : α}
    (hsplit : order id parent rows =
      pre ++ p :: (visit id parent rows (children id parent rows p) ((rows.diff pre).erase p) ++
        post))
    (hne : id p ≠ "") : ∀ m ∈ post, parent m ≠ id p := by
  intro m hm hparent
  have hperm := order_perm id parent hnodup
  have hout := hsplit ▸ hperm.nodup_iff.mpr hnodup
  obtain ⟨-, hbehind, hpre⟩ := List.nodup_append.mp hout
  obtain ⟨hp, hrest⟩ := List.nodup_cons.mp hbehind
  have hmrest := List.mem_append_right
    (visit id parent rows (children id parent rows p) ((rows.diff pre).erase p)) hm
  have hmrows : m ∈ rows :=
    hperm.mem_iff.mp (hsplit ▸ List.mem_append_right pre (List.mem_cons_of_mem p hmrest))
  have hmpre : m ∉ pre := fun hmem => hpre m hmem m (List.mem_cons_of_mem p hmrest) rfl
  have hmp : m ≠ p := fun heq => hp (heq ▸ hmrest)
  have hunder := h.mem_children_of_parent hmrows (hparent ▸ hne) hparent
  have hvisited := mem_visit id parent rows hunder
    ((List.mem_erase_of_ne hmp).mpr (List.mem_diff_of_mem hmrows hmpre))
  exact (List.nodup_append.mp hrest).2.2 m hvisited m hm rfl

/-- The chain of parents of each row that is visited under a row leads to it. -/
theorem leads_visit (rows : List α) (p : α) (unseen : List α) :
    ∀ c ∈ visit id parent rows (children id parent rows p) unseen,
      Relation.ReflTransGen (Under id parent rows) (parent c) (id p) := by
  have hleads := visit_forall id parent rows (children id parent rows p) unseen
    (P := fun c => c ∈ rows ∧ parent c ≠ "" ∧
      Relation.ReflTransGen (Under id parent rows) (parent c) (id p)) ?_ ?_
  · exact fun c hc => (hleads c hc).2.2
  · intro c hc
    obtain ⟨hrows, hne, -, hparent⟩ := (mem_children id parent).mp hc
    exact ⟨hrows, hne, hparent ▸ .refl⟩
  · rintro r ⟨hr, hrne, hrleads⟩ c hc
    obtain ⟨hrows, hne, -, hparent⟩ := (mem_children id parent).mp hc
    have hstep : Under id parent rows (parent c) (parent r) :=
      ⟨hne, hrne, r, hr, hparent.symm, rfl⟩
    exact ⟨hrows, hne, .head hstep hrleads⟩

theorem Acyclic.hasRun (h : Acyclic id parent rows) (hnodup : rows.Nodup) {target : String}
    (hne : target ≠ "") (hmem : ∃ r ∈ rows, id r = target) :
    HasRun id parent rows target (order id parent rows) := by
  obtain ⟨p, hfind⟩ : ∃ p, (order id parent rows).find? (id · == target) = some p := by
    obtain ⟨r, hr, hid⟩ := hmem
    rw [← Option.isSome_iff_exists, List.find?_isSome]
    exact ⟨r, (order_perm id parent hnodup).mem_iff.mpr hr, by simpa using hid⟩
  obtain ⟨hid, pre, rest, hsplit, hfirst⟩ := List.find?_eq_some_iff_append.mp hfind
  obtain rfl : id p = target := by simpa using hid
  have hfirst : ∀ m ∈ pre, id m ≠ id p := fun m hm => by simpa using hfirst m hm
  obtain ⟨post, rfl⟩ := visit_split id parent hsplit
  refine ⟨pre, p, _, post, hsplit, rfl, hfirst, List.forall_mem_append.mpr ⟨?_, ?_⟩, ?_⟩
  · exact h.parent_ne_of_mem_pre hnodup hsplit hne hfirst
  · exact h.parent_ne_of_mem_post hnodup hsplit hne
  · exact leads_visit rows p _

end Order

end Reconcile

end CriteriaSearch
