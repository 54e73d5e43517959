import CriteriaSearch.Page.Reconcile
import CriteriaSearch.Proofs.Lists

/-!
# The order of a page loses nothing

The order of the hierarchy as a visit: rows are taken from a stack, and those under a row are put on
top of it. A visit emits every unseen row once, provided its stack still holds all of them. The rows
of a page in the order of the hierarchy are therefore a permutation of the page, whatever its ids
and parents are.
-/

namespace CriteriaSearch

namespace Reconcile

variable {α : Type} [DecidableEq α] (id parent : α → String)

/-- Visit the rows of a stack, each one followed by those under it, as far as they are unseen. -/
def visit (rows : List α) : List α → List α → List α
  | [], _ => []
  | r :: stack, unseen =>
    if r ∈ unseen then r :: visit rows (children id parent rows r ++ stack) (unseen.erase r)
    else visit rows stack unseen
termination_by stack unseen => (unseen.length, stack.length)
decreasing_by
  · apply Prod.Lex.left
    rename_i h
    have := List.length_pos_of_mem h
    rw [List.length_erase_of_mem h]
    omega
  · exact Prod.Lex.right _ (Nat.lt_succ_self _)

/-- Distinct rows in the order in which they are visited. -/
def order (rows : List α) : List α :=
  visit id parent rows (rows.filter (!isChild id parent rows ·) ++ rows) rows

/-- The stack covers the unseen rows throughout: the row taken from it is no longer unseen. -/
theorem visit_perm (rows stack unseen : List α) (hnodup : unseen.Nodup)
    (hcover : unseen ⊆ stack) : (visit id parent rows stack unseen).Perm unseen := by
  induction stack, unseen using visit.induct id parent rows with
  | case1 unseen =>
      rw [List.subset_nil.mp hcover, visit]
  | case2 r stack unseen hr ih =>
      -- The children of `r` come on top, which takes nothing away from below.
      have hcover' : unseen.erase r ⊆ children id parent rows r ++ stack := by
        intro c hc
        have hne : c ≠ r := fun heq => hnodup.not_mem_erase (heq ▸ hc)
        have hmem : c ∈ r :: stack := hcover (List.mem_of_mem_erase hc)
        exact List.mem_append_right _ ((List.mem_cons.mp hmem).resolve_left hne)
      rw [visit, if_pos hr]
      exact ((ih (hnodup.erase r) hcover').cons r).trans (List.perm_cons_erase hr).symm
  | case3 r stack unseen hr ih =>
      have hcover' : unseen ⊆ stack := fun c hc =>
        (List.mem_cons.mp (hcover hc)).resolve_left fun heq => hr (heq ▸ hc)
      rw [visit, if_neg hr]
      exact ih hnodup hcover'

theorem order_perm {rows : List α} (hnodup : rows.Nodup) : (order id parent rows).Perm rows :=
  visit_perm id parent rows _ rows hnodup (List.subset_append_right _ _)

/-! ### Rows without an id -/

/-- The rows that have an id. -/
def named (rows : List α) : List α := rows.filter (id · != "")

omit [DecidableEq α] in
theorem mem_named {rows : List α} {r : α} : r ∈ named id rows ↔ r ∈ rows ∧ id r ≠ "" := by
  simp [named]

omit [DecidableEq α] in
theorem named_append (rows rows' : List α) :
    named id (rows ++ rows') = named id rows ++ named id rows' := List.filter_append rows rows'

omit [DecidableEq α] in
theorem named_cons_of_ne {r : α} (hr : id r ≠ "") (rows : List α) :
    named id (r :: rows) = r :: named id rows := List.filter_cons_of_pos (by simpa using hr)

omit [DecidableEq α] in
theorem named_cons_of_eq {r : α} (hr : id r = "") (rows : List α) :
    named id (r :: rows) = named id rows := List.filter_cons_of_neg (by simpa using hr)

theorem named_erase (rows : List α) (r : α) :
    named id (rows.erase r) = (named id rows).erase r := List.erase_filter.symm

omit [DecidableEq α] in
/-- Nothing stands under a row without an id. -/
theorem children_eq_nil {r : α} (hr : id r = "") (rows : List α) :
    children id parent rows r = [] := by
  unfold children
  rw [List.filter_eq_nil_iff]
  intro c _ hc
  simp only [hr, Bool.and_eq_true, bne_iff_ne, beq_iff_eq] at hc
  exact hc.1.1 hc.2

omit [DecidableEq α] in
theorem children_named (rows : List α) (r : α) :
    children id parent (named id rows) r = named id (children id parent rows r) := by
  simp only [children, named, List.filter_filter, Bool.and_comm]

omit [DecidableEq α] in
theorem isChild_named (rows : List α) (r : α) :
    isChild id parent (named id rows) r = isChild id parent rows r := by
  unfold isChild
  rw [named, List.any_filter]
  by_cases hparent : parent r = ""
  · simp [hparent]
  · have hany : (fun p => (id p != "") && (id p == parent r)) = fun p => id p == parent r := by
      funext p
      by_cases hp : id p = parent r
      · simp [hp, hparent]
      · simp [hp]
    rw [hany]

/-- A visit of the rows with an id meets them as a visit of all rows does. -/
theorem visit_named (rows stack unseen : List α) :
    named id (visit id parent rows stack unseen) =
      visit id parent (named id rows) (named id stack) (named id unseen) := by
  induction stack, unseen using visit.induct id parent rows with
  | case1 unseen => simp [visit, named]
  | case2 r stack unseen hr ih =>
      rw [visit, if_pos hr]
      by_cases hid : id r = ""
      · have hnot : r ∉ named id unseen := fun hmem => (mem_named id).mp hmem |>.2 hid
        rw [named_cons_of_eq id hid, named_cons_of_eq id hid, ih, children_eq_nil id parent hid,
          List.nil_append, named_erase, List.erase_of_not_mem hnot]
      · have hmem : r ∈ named id unseen := (mem_named id).mpr ⟨hr, hid⟩
        rw [named_cons_of_ne id hid, named_cons_of_ne id hid, ih, visit, if_pos hmem, named_append,
          children_named, named_erase]
  | case3 r stack unseen hr ih =>
      rw [visit, if_neg hr, ih]
      by_cases hid : id r = ""
      · rw [named_cons_of_eq id hid]
      · have hnot : r ∉ named id unseen := fun hmem => hr ((mem_named id).mp hmem).1
        rw [named_cons_of_ne id hid, visit, if_neg hnot]

theorem order_named (rows : List α) :
    named id (order id parent rows) = order id parent (named id rows) := by
  have hroots : (named id rows).filter (!isChild id parent (named id rows) ·) =
      named id (rows.filter (!isChild id parent rows ·)) := by
    simp only [isChild_named]
    simp only [named, List.filter_filter, Bool.and_comm]
  rw [order, order, visit_named, hroots, named_append]

/-! ### Renaming -/

section Renaming

variable {β : Type} [DecidableEq β] {f : α → β} (hf : Function.Injective f) (id parent : β → String)

include hf

omit [DecidableEq α] [DecidableEq β] hf in
theorem children_map (rows : List α) (r : α) :
    children id parent (rows.map f) (f r) = (children (id ∘ f) (parent ∘ f) rows r).map f :=
  List.filter_map

theorem visit_map (rows stack unseen : List α) :
    visit id parent (rows.map f) (stack.map f) (unseen.map f) =
      (visit (id ∘ f) (parent ∘ f) rows stack unseen).map f := by
  induction stack, unseen using visit.induct (id ∘ f) (parent ∘ f) rows with
  | case1 unseen => simp [visit]
  | case2 r stack unseen hr ih =>
      have hmem : f r ∈ unseen.map f := List.mem_map_of_mem hr
      rw [List.map_append, List.map_erase hf] at ih
      rw [List.map_cons, visit, if_pos hmem, children_map, ih, visit, if_pos hr, List.map_cons]
  | case3 r stack unseen hr ih =>
      have hnot : f r ∉ unseen.map f := by
        rwa [List.mem_map_of_injective hf]
      rw [List.map_cons, visit, if_neg hnot, ih, visit, if_neg hr]

omit [DecidableEq α] [DecidableEq β] hf in
theorem roots_map (rows : List α) :
    (rows.map f).filter (!isChild id parent (rows.map f) ·) =
      (rows.filter (!isChild (id ∘ f) (parent ∘ f) rows ·)).map f := by
  rw [List.filter_map]
  refine congrArg (List.map f) (List.filter_congr fun r _ => ?_)
  simp [isChild, List.any_map, Function.comp_def]

/-- The order depends on the ids and parents of rows alone. -/
theorem order_map (rows : List α) :
    order id parent (rows.map f) = (order (id ∘ f) (parent ∘ f) rows).map f := by
  rw [order, order, roots_map, ← List.map_append, visit_map hf]

end Renaming

end Reconcile

/-- The id at a position of a page, empty behind its end. -/
def idAt (page : List Node) (i : Nat) : String := (page[i]?.map Node.id).getD ""

def parentAt (page : List Node) (i : Nat) : String := (page[i]?.map Node.parent).getD ""

/-- The nodes of a page in the order of the hierarchy, however deep it is. -/
def reconcile (page : List Node) : List Node :=
  (Reconcile.order (idAt page) (parentAt page) (List.range page.length)).filterMap (page[·]?)

/-- Whatever ids and parents the rows of a page have, its order is one of the whole page. -/
theorem reconcile_perm (page : List Node) : (reconcile page).Perm page := by
  have horder := (Reconcile.order_perm (idAt page) (parentAt page)
    (List.nodup_range (n := page.length))).filterMap (page[·]?)
  rwa [filterMap_range_getElem? page] at horder

/-! ### Rows without an id -/

theorem filterMap_named (page : List Node) (positions : List Nat) :
    (positions.filterMap (page[·]?)).filter (·.id != "") =
      (Reconcile.named (idAt page) positions).filterMap (page[·]?) := by
  induction positions with
  | nil => rfl
  | cons i positions ih =>
      cases hi : page[i]? with
      | none =>
          have hid : idAt page i = "" := by simp [idAt, hi]
          rw [List.filterMap_cons_none hi, ih, Reconcile.named_cons_of_eq _ hid]
      | some n =>
          have hid : idAt page i = n.id := by simp [idAt, hi]
          rw [List.filterMap_cons_some hi]
          by_cases hn : n.id = ""
          · rw [List.filter_cons_of_neg (by simpa using hn), ih,
              Reconcile.named_cons_of_eq _ (hid.trans hn)]
          · rw [List.filter_cons_of_pos (by simpa using hn), ih,
              Reconcile.named_cons_of_ne _ (hid ▸ hn), List.filterMap_cons_some hi]

/-- Rows without an id do not matter for the order of the others. -/
theorem reconcile_filter (page : List Node) :
    (reconcile page).filter (·.id != "") = reconcile (page.filter (·.id != "")) := by
  have hget : ∀ j, (page.filter (·.id != ""))[j]? = page[keptAt (·.id != "") page j]? :=
    getElem?_filter_eq _ page
  have hpositions : Reconcile.named (idAt page) (List.range page.length) =
      (List.range (page.filter (·.id != "")).length).map (keptAt (·.id != "") page) := by
    rw [← filter_range_eq]
    refine List.filter_congr fun i _ => ?_
    cases hi : page[i]? <;> simp [idAt, hi]
  have hid : idAt page ∘ keptAt (·.id != "") page = idAt (page.filter (·.id != "")) := by
    funext j
    simp [idAt, hget]
  have hparent : parentAt page ∘ keptAt (·.id != "") page =
      parentAt (page.filter (·.id != "")) := by
    funext j
    simp [parentAt, hget]
  rw [reconcile, filterMap_named, Reconcile.order_named, hpositions,
    Reconcile.order_map (keptAt_injective _ page), hid, hparent, List.filterMap_map, reconcile]
  exact List.filterMap_congr fun j _ => (hget j).symm

theorem reconcile_map {g : Node → Node} (hid : ∀ n, (g n).id = n.id)
    (hparent : ∀ n, (g n).parent = n.parent) (page : List Node) :
    reconcile (page.map g) = (reconcile page).map g := by
  have hid' : idAt (page.map g) = idAt page := by
    funext i
    simp [idAt, Function.comp_def, hid]
  have hparent' : parentAt (page.map g) = parentAt page := by
    funext i
    simp [parentAt, Function.comp_def, hparent]
  rw [reconcile, reconcile, hid', hparent', List.length_map, List.map_filterMap]
  exact List.filterMap_congr fun i _ => List.getElem?_map

end CriteriaSearch
