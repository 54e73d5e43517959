import CriteriaSearch.Page.Reconcile
import CriteriaSearch.Proofs.Page.Stability

/-!
# Walks with room for some levels

A walk that goes down from row to row appends what a visit meets. It ends early only where distinct
rows stand under each other, more of them than there is room for. Rows that were put in order by a
walk stay in this order, and there is room for walking them again.
-/

namespace CriteriaSearch

namespace Reconcile

variable {α : Type} [DecidableEq α] {id parent : α → String} {rows out out' : List α} {r : α}
  {room : Nat}

theorem emit_of_mem (h : r ∈ out) : emit id parent rows room out r = some out := by
  cases room with
  | zero => exact if_pos h
  | succ room => exact if_pos h

theorem emit_zero_of_not_mem (h : r ∉ out) : emit id parent rows 0 out r = none := if_neg h

theorem emit_succ_of_not_mem (h : r ∉ out) : emit id parent rows (room + 1) out r =
    (children id parent rows r).foldlM (emit id parent rows room) (out ++ [r]) := if_neg h

omit [DecidableEq α] in
theorem children_subset (rows : List α) (r : α) : children id parent rows r ⊆ rows :=
  List.filter_subset_self _

/-! ### What is emitted -/

/-- If single rows are appended as a visit meets them, then so are the rows of a stack. -/
theorem foldlM_emit_eq
    (hemit : ∀ r ∈ rows, ∀ out out', emit id parent rows room out r = some out' →
      out' = out ++ visit id parent rows [r] (rows.diff out))
    {stack : List α} (hstack : stack ⊆ rows)
    (h : stack.foldlM (emit id parent rows room) out = some out') :
    out' = out ++ visit id parent rows stack (rows.diff out) := by
  induction stack generalizing out with
  | nil =>
      obtain rfl := Option.some.inj h
      rw [visit, List.append_nil]
  | cons r stack ih =>
      obtain ⟨hr, hrest⟩ := List.cons_subset.mp hstack
      rw [List.foldlM_cons] at h
      obtain ⟨middle, hmiddle, hout⟩ := Option.bind_eq_some_iff.mp h
      have hfirst := hemit r hr out middle hmiddle
      rw [ih hrest hout, ← List.singleton_append, visit_append, hfirst, List.diff_append,
        List.append_assoc]

theorem visit_of_mem (hnodup : rows.Nodup) (h : r ∈ out) :
    visit id parent rows [r] (rows.diff out) = [] := by
  apply visit_eq_nil
  exact List.forall_mem_singleton.mpr fun hmem => (hnodup.mem_sdiff_iff.mp hmem).2 h

theorem visit_of_not_mem (hnodup : rows.Nodup) (hr : r ∈ rows) (h : r ∉ out) :
    visit id parent rows [r] (rows.diff out) =
      r :: visit id parent rows (children id parent rows r) (rows.diff (out ++ [r])) := by
  rw [visit, if_pos (hnodup.mem_sdiff_iff.mpr ⟨hr, h⟩), List.append_nil, List.diff_append,
    List.diff_cons, List.diff_nil]

/-- A row is appended with what is visited under it, as far as it is not there yet. -/
theorem emit_eq (hnodup : rows.Nodup) (hr : r ∈ rows)
    (h : emit id parent rows room out r = some out') :
    out' = out ++ visit id parent rows [r] (rows.diff out) := by
  induction room generalizing out out' r with
  | zero =>
      by_cases hmem : r ∈ out
      · rw [emit_of_mem hmem] at h
        rw [visit_of_mem hnodup hmem, List.append_nil, Option.some.inj h]
      · rw [emit_zero_of_not_mem hmem] at h
        cases h
  | succ room ih =>
      by_cases hmem : r ∈ out
      · rw [emit_of_mem hmem] at h
        rw [visit_of_mem hnodup hmem, List.append_nil, Option.some.inj h]
      · rw [emit_succ_of_not_mem hmem] at h
        have hunder := foldlM_emit_eq (fun _ hc _ _ => ih hc) (children_subset rows r) h
        rw [visit_of_not_mem hnodup hr hmem, hunder, List.append_assoc, List.singleton_append]

theorem order?_eq_foldlM (room : Nat) (rows : List α) : order? id parent room rows =
    (rows.filter (!isChild id parent rows ·) ++ rows).foldlM (emit id parent rows room) [] :=
  List.foldlM_append.symm

theorem order?_eq (hnodup : rows.Nodup) (h : order? id parent room rows = some out) :
    out = order id parent rows := by
  rw [order?_eq_foldlM] at h
  have hstack : rows.filter (!isChild id parent rows ·) ++ rows ⊆ rows :=
    List.append_subset.mpr ⟨List.filter_subset_self _, List.Subset.refl _⟩
  exact foldlM_emit_eq (fun _ hr _ _ => emit_eq hnodup hr) hstack h

/-! ### Room for the levels -/

/-- Distinct rows, each of which stands under the one before. -/
structure Descends (id parent : α → String) (rows chain : List α) : Prop where
  nodup : chain.Nodup
  subset : chain ⊆ rows
  under : chain.IsChain fun p c => parent c ≠ "" ∧ parent c ≠ id c ∧ parent c = id p

omit [DecidableEq α] in
theorem Descends.length_le (h : Descends id parent rows out) : out.length ≤ rows.length :=
  (h.nodup.subperm h.subset).length_le

theorem exists_of_foldlM_eq_none
    (hemit : ∀ r ∈ rows, ∀ out out', emit id parent rows room out r = some out' → out ⊆ out')
    {stack : List α} (hstack : stack ⊆ rows)
    (h : stack.foldlM (emit id parent rows room) out = none) :
    ∃ c ∈ stack, ∃ out', out ⊆ out' ∧ emit id parent rows room out' c = none := by
  induction stack generalizing out with
  | nil => cases h
  | cons r stack ih =>
      obtain ⟨hr, hrest⟩ := List.cons_subset.mp hstack
      rw [List.foldlM_cons] at h
      cases hfirst : emit id parent rows room out r with
      | none => exact ⟨r, List.mem_cons_self, out, List.Subset.refl _, hfirst⟩
      | some middle =>
          rw [hfirst] at h
          obtain ⟨c, hc, out', hout, hnone⟩ := ih hrest h
          exact ⟨c, List.mem_cons_of_mem r hc, out',
            List.Subset.trans (hemit r hr out middle hfirst) hout, hnone⟩

theorem subset_of_emit (hnodup : rows.Nodup) : ∀ r ∈ rows, ∀ out out',
    emit id parent rows room out r = some out' → out ⊆ out' := by
  intro r hr out out' h
  rw [emit_eq hnodup hr h]
  exact List.subset_append_left _ _

/-- If a walk ends early, then it went down a chain of rows for which there is no room. -/
theorem exists_descends_of_emit (hnodup : rows.Nodup) (hr : r ∈ rows)
    (h : emit id parent rows room out r = none) :
    ∃ chain, Descends id parent rows (r :: chain) ∧ (∀ c ∈ r :: chain, c ∉ out) ∧
      chain.length = room := by
  induction room generalizing out r with
  | zero =>
      have hmem : r ∉ out := fun hmem => by
        rw [emit_of_mem hmem] at h
        cases h
      exact ⟨[], ⟨List.nodup_singleton r, by simpa using hr, .singleton r⟩,
        by simpa using hmem, rfl⟩
  | succ room ih =>
      have hmem : r ∉ out := fun hmem => by
        rw [emit_of_mem hmem] at h
        cases h
      rw [emit_succ_of_not_mem hmem] at h
      obtain ⟨c, hc, out', hout, hnone⟩ :=
        exists_of_foldlM_eq_none (subset_of_emit hnodup) (children_subset rows r) h
      obtain ⟨hrows, hunder⟩ := (mem_children id parent).mp hc
      obtain ⟨chain, hchain, hunseen, hlength⟩ := ih hrows hnone
      -- Nothing of the chain below has been met, and `r` has.
      have hrchain : r ∉ c :: chain := fun hmem => hunseen r hmem (hout (by simp))
      refine ⟨c :: chain, ⟨List.nodup_cons.mpr ⟨hrchain, hchain.nodup⟩,
        List.cons_subset.mpr ⟨hr, hchain.subset⟩, ?_⟩, ?_, congrArg Nat.succ hlength⟩
      · exact List.isChain_cons_cons.mpr ⟨hunder, hchain.under⟩
      · exact List.forall_mem_cons.mpr
          ⟨hmem, fun d hd hdout => hunseen d hd (hout (List.mem_append_left _ hdout))⟩

/-- Distinct rows are put in order unless there is a chain of rows for which there is no room. -/
theorem order?_cases (id parent : α → String) (hnodup : rows.Nodup) (room : Nat) :
    order? id parent room rows = some (order id parent rows) ∨
      order? id parent room rows = none ∧
        ∃ chain, Descends id parent rows chain ∧ room < chain.length := by
  cases horder : order? id parent room rows with
  | some out => exact .inl (congrArg some (order?_eq hnodup horder))
  | none =>
      rw [order?_eq_foldlM] at horder
      have hstack : rows.filter (!isChild id parent rows ·) ++ rows ⊆ rows :=
        List.append_subset.mpr ⟨List.filter_subset_self _, List.Subset.refl _⟩
      obtain ⟨r, hr, out, -, hnone⟩ :=
        exists_of_foldlM_eq_none (subset_of_emit hnodup) hstack horder
      obtain ⟨chain, hchain, -, hlength⟩ := exists_descends_of_emit hnodup (hstack hr) hnone
      exact .inr ⟨rfl, _, hchain, hlength ▸ Nat.lt_succ_self _⟩

omit [DecidableEq α] in
theorem Descends.map {β : Type} {f : α → β} (hf : Function.Injective f) {id parent : β → String}
    (h : Descends (id ∘ f) (parent ∘ f) rows out) :
    Descends id parent (rows.map f) (out.map f) :=
  ⟨h.nodup.map hf, List.map_subset f h.subset, List.isChain_map f |>.mpr h.under⟩

/-! ### Walks of rows in order -/

omit [DecidableEq α] in
theorem foldlM_congr {β : Type} {f g : β → α → Option β} {xs : List α}
    (h : ∀ b, ∀ a ∈ xs, f b a = g b a) (b : β) : xs.foldlM f b = xs.foldlM g b := by
  induction xs generalizing b with
  | nil => rfl
  | cons a xs ih =>
      obtain hrest := fun b c hc => h b c (List.mem_cons_of_mem a hc)
      rw [List.foldlM_cons, List.foldlM_cons, h b a List.mem_cons_self]
      exact congrArg _ (funext (ih hrest))

omit [DecidableEq α] in
theorem foldlM_map_of {β : Type} {f : α → β} {step : List α → α → Option (List α)}
    {step' : List β → β → Option (List β)}
    (h : ∀ out a, step' (out.map f) (f a) = (step out a).map (List.map f)) (xs out : List α) :
    (xs.map f).foldlM step' (out.map f) = (xs.foldlM step out).map (List.map f) := by
  induction xs generalizing out with
  | nil => rfl
  | cons a xs ih =>
      rw [List.map_cons, List.foldlM_cons, List.foldlM_cons, h]
      cases step out a with
      | none => rfl
      | some middle => exact ih middle

/-- A walk depends on its rows only through what stands under each of them. -/
theorem emit_congr {rows' : List α}
    (h : ∀ r ∈ rows, children id parent rows' r = children id parent rows r) (hr : r ∈ rows) :
    emit id parent rows' room out r = emit id parent rows room out r := by
  induction room generalizing out r with
  | zero => rfl
  | succ room ih =>
      by_cases hmem : r ∈ out
      · rw [emit_of_mem hmem, emit_of_mem hmem]
      · rw [emit_succ_of_not_mem hmem, emit_succ_of_not_mem hmem, h r hr]
        exact foldlM_congr (fun _ _ hc => ih (children_subset rows r hc)) _

/-- Rows that have been emitted are passed over. -/
theorem foldlM_emit_of_subset {pre : List α} (h : pre ⊆ out) (stack : List α) :
    (pre ++ stack).foldlM (emit id parent rows room) out =
      stack.foldlM (emit id parent rows room) out := by
  induction pre with
  | nil => rfl
  | cons r pre ih =>
      obtain ⟨hr, hrest⟩ := List.cons_subset.mp h
      rw [List.cons_append, List.foldlM_cons, emit_of_mem hr]
      exact ih hrest

/-- The result of a walk is a stack that leads to the same result. -/
theorem foldlM_emit_self (hnodup : rows.Nodup) {stack : List α} (hstack : stack ⊆ rows)
    (h : stack.foldlM (emit id parent rows room) out = some out') :
    out'.foldlM (emit id parent rows room) out = some out' := by
  induction stack generalizing out with
  | nil =>
      obtain rfl := Option.some.inj h
      have hnil : (out ++ []).foldlM (emit id parent rows room) out =
          ([] : List α).foldlM (emit id parent rows room) out :=
        foldlM_emit_of_subset (List.Subset.refl out) []
      rwa [List.append_nil] at hnil
  | cons r stack ih =>
      obtain ⟨hr, hrest⟩ := List.cons_subset.mp hstack
      rw [List.foldlM_cons] at h
      obtain ⟨middle, hmiddle, hout⟩ := Option.bind_eq_some_iff.mp h
      have hagain := ih hrest hout
      by_cases hmem : r ∈ out
      · rw [emit_of_mem hmem] at hmiddle
        obtain rfl := Option.some.inj hmiddle
        exact hagain
      · -- In the result `r` comes right behind what has been emitted before.
        have hfirst := emit_eq hnodup hr hmiddle
        rw [visit_of_not_mem hnodup hr hmem] at hfirst
        obtain ⟨later, rfl⟩ : ∃ later, out' = out ++ ([r] ++ later) := by
          rw [foldlM_emit_eq (fun _ hc _ _ => emit_eq hnodup hc) hrest hout, hfirst]
          exact ⟨_, by rw [List.append_assoc, List.cons_append, List.singleton_append]⟩
        have hseen : out ++ [r] ⊆ middle := by
          rw [hfirst]
          exact List.append_subset.mpr ⟨List.subset_append_left _ _, by simp⟩
        rw [← List.append_assoc, foldlM_emit_of_subset hseen, List.append_assoc] at hagain
        rw [foldlM_emit_of_subset (List.Subset.refl out), List.singleton_append, List.foldlM_cons,
          hmiddle]
        exact hagain

/-- Rows that were put in order are put in the same order again. -/
theorem order?_again (hnodup : rows.Nodup) (h : order? id parent room rows = some out) :
    order? id parent room out = some out := by
  have hout := order?_eq hnodup h
  have hsame : ∀ r ∈ rows, children id parent out r = children id parent rows r := fun r hr =>
    hout ▸ children_order hnodup hr
  have hroots : out.filter (!isChild id parent out ·) = rows.filter (!isChild id parent rows ·) :=
    hout ▸ roots_order hnodup
  have hsubset : out ⊆ rows := hout ▸ (order_perm id parent hnodup).subset
  obtain ⟨middle, hmiddle, hrest⟩ := Option.bind_eq_some_iff.mp h
  have hagain := foldlM_emit_self hnodup (List.Subset.refl rows) hrest
  unfold order?
  rw [hroots, foldlM_congr (fun _ _ hc => emit_congr hsame (List.mem_of_mem_filter hc)), hmiddle]
  exact (foldlM_congr (fun _ _ hc => emit_congr hsame (hsubset hc)) middle).trans hagain

/-! ### Renaming -/

section Renaming

variable {β : Type} [DecidableEq β] {f : α → β} (hf : Function.Injective f) (id parent : β → String)

include hf

theorem emit_map (rows : List α) (room : Nat) (out : List α) (r : α) :
    emit id parent (rows.map f) room (out.map f) (f r) =
      (emit (id ∘ f) (parent ∘ f) rows room out r).map (List.map f) := by
  induction room generalizing out r with
  | zero =>
      by_cases hmem : r ∈ out
      · rw [emit_of_mem hmem, emit_of_mem (List.mem_map_of_mem hmem), Option.map_some]
      · rw [emit_zero_of_not_mem hmem, emit_zero_of_not_mem (by rwa [List.mem_map_of_injective hf]),
          Option.map_none]
  | succ room ih =>
      by_cases hmem : r ∈ out
      · rw [emit_of_mem hmem, emit_of_mem (List.mem_map_of_mem hmem), Option.map_some]
      · rw [emit_succ_of_not_mem hmem, emit_succ_of_not_mem (by rwa [List.mem_map_of_injective hf]),
          children_map, ← List.map_singleton, ← List.map_append]
        exact foldlM_map_of ih _ _

theorem order?_map (room : Nat) (rows : List α) : order? id parent room (rows.map f) =
    (order? (id ∘ f) (parent ∘ f) room rows).map (List.map f) := by
  rw [order?_eq_foldlM, order?_eq_foldlM, roots_map, ← List.map_append]
  exact foldlM_map_of (emit_map hf id parent rows room) _ []

end Renaming

/-- Rows in the order of the hierarchy stay in it. -/
theorem order_order (hnodup : rows.Nodup) :
    order id parent (order id parent rows) = order id parent rows := by
  have hperm := order_perm id parent hnodup
  have hok : order? id parent rows.length rows = some (order id parent rows) := by
    refine (order?_cases id parent hnodup rows.length).resolve_right ?_
    rintro ⟨-, chain, hchain, hlong⟩
    exact Nat.not_le_of_lt hlong hchain.length_le
  exact (order?_eq (hperm.nodup_iff.mpr hnodup) (order?_again hnodup hok)).symm

end Reconcile

end CriteriaSearch
