import CriteriaSearch.Proofs.Page.Visits

/-!
# Visits keep an order

A visit keeps the order of rows that it always finds together: of the rows under one row, of those
whose parent is not on the page, and, without a cycle of parents, of all rows with one parent.
-/

namespace CriteriaSearch

namespace Reconcile

variable {α : Type} [DecidableEq α] {id parent : α → String}

/-! ### Rows that are found alike -/

section Siblings

variable {rows : List α}

/-- In a list `x` comes before every `y`. -/
def Before (x y : α) : List α → Prop
  | [] => True
  | c :: cs => c = x ∨ c ≠ y ∧ Before x y cs

omit [DecidableEq α] in
theorem Before.append {x y : α} {xs ys : List α} (hxs : Before x y xs) (hys : Before x y ys) :
    Before x y (xs ++ ys) := by
  induction xs with
  | nil => exact hys
  | cons c cs ih => exact hxs.imp_right fun hrest => ⟨hrest.1, ih hrest.2⟩

omit [DecidableEq α] in
theorem before_of_pairwise {R : α → α → Prop} (hasymm : ∀ a b, R a b → ¬ R b a) {x y : α}
    (hxy : R x y) {xs : List α} (hxs : xs.Pairwise R) (hmem : y ∈ xs → x ∈ xs) :
    Before x y xs := by
  induction xs with
  | nil => trivial
  | cons c cs ih =>
      obtain ⟨hc, hcs⟩ := List.pairwise_cons.mp hxs
      by_cases hcx : c = x
      · exact .inl hcx
      · have hmem' : y ∈ c :: cs → x ∈ cs := fun hy =>
          (List.mem_cons.mp (hmem hy)).resolve_left (Ne.symm hcx)
        refine .inr ⟨?_, ih hcs fun hy => hmem' (List.mem_cons_of_mem c hy)⟩
        rintro rfl
        exact hasymm x c hxy (hc x (hmem' List.mem_cons_self))

theorem pairwise_idxOf (hnodup : rows.Nodup) :
    rows.Pairwise fun a b => rows.idxOf a < rows.idxOf b := by
  rw [List.pairwise_iff_getElem]
  intro i j hi hj hij
  rwa [hnodup.idxOf_getElem i hi, hnodup.idxOf_getElem j hj]

theorem before_of_sublist (hnodup : rows.Nodup) {x y : α} (hxy : rows.idxOf x < rows.idxOf y)
    {stack : List α} (hstack : stack.Sublist rows) (hmem : y ∈ stack → x ∈ stack) :
    Before x y stack :=
  before_of_pairwise (R := fun a b => rows.idxOf a < rows.idxOf b) (fun _ _ => Nat.lt_asymm) hxy
    ((pairwise_idxOf hnodup).sublist hstack) hmem

/-- If `x` comes before `y` on the stack and under every row, then it is not visited after `y`. -/
theorem visit_before {x y : α} {stack unseen : List α} (hnodup : unseen.Nodup)
    (hchildren : ∀ r ∈ unseen, Before x y (children id parent rows r))
    (hstack : x ∉ unseen ∨ Before x y stack)
    {pre post : List α} (h : visit id parent rows stack unseen = pre ++ y :: post) : x ∉ post := by
  induction stack, unseen using visit.induct id parent rows generalizing pre with
  | case1 unseen => simp [visit] at h
  | case2 r stack unseen hr ih =>
      rw [visit, if_pos hr] at h
      -- Either `x` has been visited, or it still comes before `y` on the rest of the stack.
      have hnext : x ∉ unseen.erase r ∨ r ≠ y ∧ Before x y stack := by
        rcases hstack with hx | rfl | hrest
        · exact .inl fun hmem => hx (List.mem_of_mem_erase hmem)
        · exact .inl hnodup.not_mem_erase
        · exact .inr hrest
      cases pre with
      | nil =>
          obtain ⟨rfl, rfl⟩ := List.cons.inj h
          rcases hnext with hx | ⟨hne, -⟩
          · exact fun hmem => hx (visit_subset id parent rows _ _ hmem)
          · exact absurd rfl hne
      | cons p pre =>
          obtain ⟨rfl, hrest⟩ := List.cons.inj h
          have hstack' := hnext.imp_right fun hbefore => (hchildren r hr).append hbefore.2
          exact ih (hnodup.erase r) (fun c hc => hchildren c (List.mem_of_mem_erase hc)) hstack'
            hrest
  | case3 r stack unseen hr ih =>
      rw [visit, if_neg hr] at h
      refine ih hnodup hchildren ?_ h
      rcases hstack with hx | rfl | ⟨-, hrest⟩
      · exact .inl hx
      · exact .inl hr
      · exact .inr hrest

/-- Wherever a walk finds `y`, it finds `x` as well. -/
structure Alike (id parent : α → String) (rows : List α) (x y : α) : Prop where
  children : ∀ r ∈ rows, y ∈ children id parent rows r → x ∈ children id parent rows r
  root : isChild id parent rows x = true → isChild id parent rows y = true

/-- Rows that are found alike keep their order. -/
theorem filter_order (hnodup : rows.Nodup) {p : α → Bool}
    (h : ∀ x ∈ rows, ∀ y ∈ rows, p x = true → p y = true → Alike id parent rows x y) :
    (order id parent rows).filter p = rows.filter p := by
  have hperm := order_perm id parent hnodup
  have hout : (order id parent rows).Nodup := hperm.nodup_iff.mpr hnodup
  have hsorted : ((order id parent rows).filter p).Pairwise
      fun a b => rows.idxOf a < rows.idxOf b := by
    refine List.pairwise_filter.mpr ?_
    refine List.pairwise_iff_forall_sublist.mpr fun {y x} hsub hpy hpx => ?_
    have hy : y ∈ rows := hperm.subset (hsub.subset List.mem_cons_self)
    have hx : x ∈ rows := hperm.subset (hsub.subset (List.mem_cons_of_mem y List.mem_cons_self))
    by_contra hnot
    have hne : rows.idxOf x ≠ rows.idxOf y := fun heq =>
      (List.pairwise_cons.mp (hout.sublist hsub)).1 x List.mem_cons_self
        ((List.idxOf_inj hx).mp heq).symm
    have hlt : rows.idxOf x < rows.idxOf y := by omega
    have halike := h x hx y hy hpx hpy
    have hchildren : ∀ r ∈ rows, Before x y (children id parent rows r) := fun r hr =>
      before_of_sublist hnodup hlt List.filter_sublist (halike.children r hr)
    have hroots : Before x y (rows.filter (!isChild id parent rows ·)) := by
      refine before_of_sublist hnodup hlt List.filter_sublist fun hmem => ?_
      refine List.mem_filter.mpr ⟨hx, ?_⟩
      have hroot := (List.mem_filter.mp hmem).2
      by_contra hchild
      simp [halike.root (by simpa using hchild)] at hroot
    have hrows : Before x y rows := before_of_sublist hnodup hlt (List.Sublist.refl _) fun _ => hx
    obtain ⟨front, back, hsplit, hyfront, hxback⟩ := List.cons_sublist_iff.mp hsub
    obtain ⟨pre, post, rfl⟩ := List.append_of_mem hyfront
    rw [List.append_assoc, List.cons_append] at hsplit
    exact visit_before hnodup hchildren (.inr (hroots.append hrows)) hsplit
      (List.mem_append_right post (List.singleton_sublist.mp hxback))
  exact (hperm.filter p).eq_of_pairwise (fun a b _ _ hab hba => absurd hab (Nat.lt_asymm hba))
    hsorted ((pairwise_idxOf hnodup).sublist List.filter_sublist)

/-- Rows with one parent keep their order. -/
theorem Acyclic.filter_order (h : Acyclic id parent rows) (hnodup : rows.Nodup) (p : String) :
    (order id parent rows).filter (parent · == p) = rows.filter (parent · == p) := by
  refine Reconcile.filter_order hnodup fun x hx y hy hpx hpy => ?_
  have hparent : parent x = parent y := (beq_iff_eq.mp hpx).trans (beq_iff_eq.mp hpy).symm
  constructor
  · intro r _ hmem
    obtain ⟨-, hne, -, hid⟩ := (mem_children id parent).mp hmem
    exact h.mem_children_of_parent hx (hparent ▸ hne) (hparent.trans hid)
  · intro hchild
    obtain ⟨hne, -, hknown⟩ := (isChild_iff id parent).mp hchild
    rw [hparent] at hne hknown
    exact (isChild_iff id parent).mpr ⟨hne, h.parent_ne hy hne, hknown⟩

omit [DecidableEq α] in
theorem isChild_of_mem_children {r c : α} (hr : r ∈ rows) (hc : c ∈ children id parent rows r) :
    isChild id parent rows c = true := by
  obtain ⟨-, hne, hself, hid⟩ := (mem_children id parent).mp hc
  exact (isChild_iff id parent).mpr ⟨hne, hself, r, hr, hid.symm⟩

/-- The rows under a row keep their order. -/
theorem children_order (hnodup : rows.Nodup) {r : α} (hr : r ∈ rows) :
    children id parent (order id parent rows) r = children id parent rows r := by
  refine filter_order hnodup fun x hx y hy hpx hpy => ?_
  have hxr : x ∈ children id parent rows r := List.mem_filter.mpr ⟨hx, hpx⟩
  have hyr : y ∈ children id parent rows r := List.mem_filter.mpr ⟨hy, hpy⟩
  obtain ⟨-, hxne, hxself, hxid⟩ := (mem_children id parent).mp hxr
  obtain ⟨-, -, -, hyid⟩ := (mem_children id parent).mp hyr
  constructor
  · intro q _ hmem
    obtain ⟨-, -, -, hid⟩ := (mem_children id parent).mp hmem
    exact (mem_children id parent).mpr ⟨hx, hxne, hxself, hxid.trans (hyid.symm.trans hid)⟩
  · exact fun _ => isChild_of_mem_children hr hyr

omit [DecidableEq α] in
theorem isChild_perm {rows' : List α} (hperm : rows'.Perm rows) (r : α) :
    isChild id parent rows' r = isChild id parent rows r := by
  rw [Bool.eq_iff_iff, isChild_iff, isChild_iff]
  simp only [hperm.mem_iff]

/-- The rows whose parent is not on the page keep their order. -/
theorem roots_order (hnodup : rows.Nodup) :
    (order id parent rows).filter (!isChild id parent (order id parent rows) ·) =
      rows.filter (!isChild id parent rows ·) := by
  simp only [isChild_perm (order_perm id parent hnodup)]
  refine filter_order hnodup fun x hx y hy hpx hpy => ⟨fun r hr hmem => ?_, fun hchild => ?_⟩
  · simp [isChild_of_mem_children hr hmem] at hpy
  · simp [hchild] at hpx

end Siblings

end Reconcile

end CriteriaSearch
