import CriteriaSearch.Proofs.Page.Stability

/-!
# The order of nodes

The order of a page is found for its positions. What holds there is carried over to the nodes:
without a cycle of parents rows with one parent keep their order, a child comes after a row with the
id of its parent, and every id of the page has a run.
-/

namespace CriteriaSearch

open Reconcile

/-! ### Positions and nodes -/

section Positions

variable (page : List Node)

/-- The positions of a page in the order of the hierarchy. -/
def positions : List Nat := order (idAt page) (parentAt page) (List.range page.length)

theorem positions_perm : (positions page).Perm (List.range page.length) :=
  order_perm _ _ List.nodup_range

theorem reconcile_eq_positions : reconcile page = (positions page).filterMap (page[·]?) :=
  rfl

variable {page}

theorem idAt_eq {i : Nat} {n : Node} (h : page[i]? = some n) : idAt page i = n.id := by
  simp [idAt, h]

theorem parentAt_eq {i : Nat} {n : Node} (h : page[i]? = some n) : parentAt page i = n.parent := by
  simp [parentAt, h]

theorem exists_node_of_mem_range {i : Nat} (hi : i ∈ List.range page.length) :
    ∃ n ∈ page, page[i]? = some n := by
  have hlt := List.mem_range.mp hi
  exact ⟨page[i], List.getElem_mem hlt, List.getElem?_eq_getElem hlt⟩

theorem exists_position {n : Node} (hn : n ∈ page) :
    ∃ i ∈ List.range page.length, page[i]? = some n := by
  obtain ⟨i, hi⟩ := List.mem_iff_getElem?.mp hn
  exact ⟨i, List.mem_range.mpr (List.getElem?_eq_some_iff.mp hi).1, hi⟩

theorem under_positions : Under (idAt page) (parentAt page) (List.range page.length) =
    Under Node.id Node.parent page := by
  funext a b
  refine propext (and_congr_right fun _ => and_congr_right fun _ => ⟨?_, ?_⟩)
  · rintro ⟨i, hi, rfl, rfl⟩
    obtain ⟨n, hn, hget⟩ := exists_node_of_mem_range hi
    exact ⟨n, hn, (idAt_eq hget).symm, (parentAt_eq hget).symm⟩
  · rintro ⟨n, hn, rfl, rfl⟩
    obtain ⟨i, hi, hget⟩ := exists_position hn
    exact ⟨i, hi, idAt_eq hget, parentAt_eq hget⟩

theorem acyclic_positions (h : Acyclic Node.id Node.parent page) :
    Acyclic (idAt page) (parentAt page) (List.range page.length) := by
  unfold Acyclic
  rwa [under_positions]

theorem forall_node {indices : List Nat} (P : String → String → Prop)
    (h : ∀ i ∈ indices, P (idAt page i) (parentAt page i)) :
    ∀ n ∈ indices.filterMap (page[·]?), P n.id n.parent := by
  intro n hn
  obtain ⟨i, hi, hget⟩ := List.mem_filterMap.mp hn
  rw [← idAt_eq hget, ← parentAt_eq hget]
  exact h i hi

theorem filter_nodes {indices : List Nat} (hindices : indices ⊆ List.range page.length)
    (p : String) : (indices.filterMap (page[·]?)).filter (·.parent == p) =
      (indices.filter (parentAt page · == p)).filterMap (page[·]?) := by
  rw [List.filter_filterMap, List.filterMap_filter]
  refine List.filterMap_congr fun i hi => ?_
  obtain ⟨n, -, hget⟩ := exists_node_of_mem_range (hindices hi)
  rw [parentAt_eq hget, hget]
  by_cases hp : n.parent = p <;> simp [hp, Option.filter]

end Positions

/-! ### Orders of pages -/

/-- The position at which a row of a page in the order of the hierarchy stood before. Behind the end
the positions go on. -/
def formerAt (page : List Node) (j : Nat) : Nat := ((positions page)[j]?).getD j

theorem length_positions (page : List Node) : (positions page).length = page.length := by
  simpa using (positions_perm page).length_eq

theorem formerAt_of_lt {page : List Node} {j : Nat} (hj : j < (positions page).length) :
    formerAt page j = (positions page)[j] := by
  simp [formerAt, hj]

theorem formerAt_of_ge {page : List Node} {j : Nat} (hj : (positions page).length ≤ j) :
    formerAt page j = j := by
  simp [formerAt, hj]

theorem formerAt_lt_iff (page : List Node) (j : Nat) :
    formerAt page j < (positions page).length ↔ j < (positions page).length := by
  by_cases hj : j < (positions page).length
  · have hmem := (positions_perm page).subset (List.getElem_mem hj)
    rw [formerAt_of_lt hj, length_positions]
    exact iff_of_true (List.mem_range.mp hmem) (length_positions page ▸ hj)
  · rw [formerAt_of_ge (Nat.le_of_not_lt hj)]

theorem formerAt_injective (page : List Node) : Function.Injective (formerAt page) := by
  have hnodup : (positions page).Nodup := (positions_perm page).nodup_iff.mpr List.nodup_range
  intro i j hij
  have hiff := formerAt_lt_iff page i
  rw [hij, formerAt_lt_iff] at hiff
  by_cases hi : i < (positions page).length
  · have hj := hiff.mpr hi
    rw [formerAt_of_lt hi, formerAt_of_lt hj] at hij
    exact hnodup.getElem_inj_iff.mp hij
  · have hj := fun h => hi (hiff.mp h)
    rwa [formerAt_of_ge (Nat.le_of_not_lt hi), formerAt_of_ge (Nat.le_of_not_lt hj)] at hij

theorem map_formerAt (page : List Node) :
    (List.range page.length).map (formerAt page) = positions page := by
  refine List.ext_getElem (by simp [length_positions]) fun j _ hj => ?_
  rw [List.getElem_map, List.getElem_range, formerAt_of_lt hj]

theorem getElem?_reconcile (page : List Node) (j : Nat) :
    (reconcile page)[j]? = page[formerAt page j]? := by
  have hsome : ∀ i ∈ positions page, (page[i]?).isSome = true := by
    intro i hi
    obtain ⟨n, -, hget⟩ := exists_node_of_mem_range ((positions_perm page).subset hi)
    rw [hget, Option.isSome_some]
  rw [reconcile_eq_positions, getElem?_filterMap_of_isSome hsome]
  by_cases hj : j < (positions page).length
  · rw [List.getElem?_eq_getElem hj, formerAt_of_lt hj, Option.bind_some]
  · have hge := Nat.le_of_not_lt hj
    rw [List.getElem?_eq_none hge, formerAt_of_ge hge, Option.bind_none,
      List.getElem?_eq_none (length_positions page ▸ hge)]

theorem idAt_reconcile (page : List Node) :
    idAt (reconcile page) = idAt page ∘ formerAt page := by
  funext j
  simp [idAt, getElem?_reconcile]

theorem parentAt_reconcile (page : List Node) :
    parentAt (reconcile page) = parentAt page ∘ formerAt page := by
  funext j
  simp [parentAt, getElem?_reconcile]

theorem length_reconcile (page : List Node) : (reconcile page).length = page.length :=
  (reconcile_perm page).length_eq

section Acyclic

variable {page : List Node} (h : Acyclic Node.id Node.parent page)

include h

/-- Rows with one parent keep their order. -/
theorem reconcile_filter_parent (p : String) :
    (reconcile page).filter (·.parent == p) = page.filter (·.parent == p) := by
  have hsubset := (positions_perm page).subset
  have hall := filterMap_range_getElem? page
  calc (reconcile page).filter (·.parent == p)
      = ((positions page).filter (parentAt page · == p)).filterMap (page[·]?) := by
        rw [reconcile_eq_positions, filter_nodes hsubset]
    _ = ((List.range page.length).filter (parentAt page · == p)).filterMap (page[·]?) := by
        rw [positions, (acyclic_positions h).filter_order List.nodup_range]
    _ = page.filter (·.parent == p) := by
        rw [← filter_nodes (List.Subset.refl _), hall]

/-- A child comes after a row with the id of its parent. -/
theorem exists_parent_before {pre post : List Node} {c : Node}
    (hsplit : reconcile page = pre ++ c :: post) (hparent : c.parent ≠ "")
    (hknown : ∃ p ∈ page, p.id = c.parent) : ∃ m ∈ pre, m.id = c.parent := by
  rw [reconcile_eq_positions] at hsplit
  obtain ⟨front, rest, hpositions, rfl, hrest⟩ := List.filterMap_eq_append_iff.mp hsplit
  obtain ⟨skipped, i, back, rfl, hskipped, hget, -⟩ := List.filterMap_eq_cons_iff.mp hrest
  have hi : i ∈ List.range page.length := by
    refine (positions_perm page).subset ?_
    rw [hpositions]
    simp
  have hself := (acyclic_positions h).parent_ne hi (by rwa [parentAt_eq hget])
  have hchild : isChild (idAt page) (parentAt page) (List.range page.length) i = true := by
    obtain ⟨p, hp, hid⟩ := hknown
    obtain ⟨j, hj, hgetj⟩ := exists_position hp
    rw [isChild_iff]
    refine ⟨by rwa [parentAt_eq hget], hself, j, hj, ?_⟩
    rw [idAt_eq hgetj, parentAt_eq hget, hid]
  have hsplit' : positions page = (front ++ skipped) ++ i :: back := by
    rw [hpositions, List.append_assoc]
  obtain ⟨j, hj, hid⟩ := (acyclic_positions h).parent_before List.nodup_range hsplit' hchild
  have hjrange : j ∈ List.range page.length := by
    refine (positions_perm page).subset ?_
    rw [hsplit']
    exact List.mem_append_left _ hj
  obtain ⟨m, -, hgetj⟩ := exists_node_of_mem_range hjrange
  have hjfront : j ∈ front := by
    refine (List.mem_append.mp hj).resolve_right fun hmem => ?_
    rw [hskipped j hmem] at hgetj
    cases hgetj
  refine ⟨m, List.mem_filterMap.mpr ⟨j, hjfront, hgetj⟩, ?_⟩
  rw [← idAt_eq hgetj, hid, parentAt_eq hget]

theorem reconcile_hasRun {id : String} (hne : id ≠ "") (hmem : ∃ n ∈ page, n.id = id) :
    HasRun Node.id Node.parent page id (reconcile page) := by
  obtain ⟨pre, i, run, post, hsplit, hid, hpre, hbeside, hrun⟩ :=
    (acyclic_positions h).hasRun List.nodup_range hne (by
      obtain ⟨n, hn, rfl⟩ := hmem
      obtain ⟨i, hi, hget⟩ := exists_position hn
      exact ⟨i, hi, idAt_eq hget⟩)
  have hi : i ∈ List.range page.length := by
    refine (positions_perm page).subset ?_
    rw [positions, hsplit]
    simp
  obtain ⟨p, -, hget⟩ := exists_node_of_mem_range hi
  refine ⟨pre.filterMap (page[·]?), p, run.filterMap (page[·]?), post.filterMap (page[·]?), ?_,
    ?_, forall_node (fun m _ => m ≠ id) hpre, ?_, ?_⟩
  · rw [reconcile_eq_positions, positions, hsplit, List.filterMap_append,
      List.filterMap_cons_some hget, List.filterMap_append]
  · rw [← idAt_eq hget, hid]
  · rw [← List.filterMap_append]
    exact forall_node (fun _ parent => parent ≠ id) hbeside
  · rw [← under_positions]
    exact forall_node (fun _ parent => Relation.ReflTransGen _ parent id) hrun

end Acyclic

end CriteriaSearch
