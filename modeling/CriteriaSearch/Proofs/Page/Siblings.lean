import CriteriaSearch.Proofs.Page.Identified
import CriteriaSearch.Proofs.Page.Lineage

/-!
# Rows with one parent

A merge pulls the children of a parent forward, but not out of their order: until this happens for
the first time they are placed on their own turns, and then all that are left are placed at once.
-/

namespace CriteriaSearch

/-- The rows of a page with a parent among placed rows. -/
def Placed.hitsUnder (p : String) (placed : List Placed) : List Node :=
  (placed.map Placed.node).filter fun n => n.origin != .fetched && n.parent == p

theorem Placing.blocks {offers : Placed → Prop} {placed placed' : List Placed}
    (h : Placing offers placed placed') {n : Node} (hn : Placed.blocks placed n = true) :
    Placed.blocks placed' n = true := by
  obtain ⟨hid, q, hq, hkey⟩ := Placed.blocks_iff.mp hn
  exact Placed.blocks_iff.mpr ⟨hid, q, h.mem_of_mem hq, hkey⟩

namespace Placed

theorem blocks_add {n : Node} (hid : n.id ≠ "") (placed : List Placed) (note : Option MergeNote) :
    blocks (add placed n note) n = true :=
  blocks_iff.mpr ⟨hid, exists_key_add placed n note⟩

theorem hitsUnder_append (p : String) (placed placed' : List Placed) :
    hitsUnder p (placed ++ placed') = hitsUnder p placed ++ hitsUnder p placed' := by
  simp [hitsUnder]

theorem hitsUnder_single {p : String} {n : Node} (horigin : n.origin ≠ .fetched)
    (hparent : n.parent = p) (note : Option MergeNote) : hitsUnder p [⟨n, note⟩] = [n] := by
  simp [hitsUnder, horigin, hparent]

theorem hitsUnder_other {p : String} {n : Node} (hn : n.origin = .fetched ∨ n.parent ≠ p)
    (note : Option MergeNote) : hitsUnder p [⟨n, note⟩] = [] := by
  rcases hn with hn | hn <;> simp [hitsUnder, hn]

theorem hitsUnder_placing {p : String} {offers : Placed → Prop} {placed placed' : List Placed}
    (h : Placing offers placed placed')
    (hother : ∀ q, offers q → q.node.origin = .fetched ∨ q.node.parent ≠ p) :
    hitsUnder p placed' = hitsUnder p placed := by
  induction h with
  | refl => rfl
  | @add placed' run n note offer ih =>
      by_cases hblocks : blocks placed' n = true
      · rw [add_of_blocks hblocks, ih]
      · rw [add_of_not_blocks hblocks, hitsUnder_append, hitsUnder_other (hother _ offer),
          List.append_nil, ih]

theorem hitsUnder_add {p : String} {n : Node} (horigin : n.origin ≠ .fetched)
    (hparent : n.parent = p) (placed : List Placed) :
    (hitsUnder p (add placed n)).Sublist (hitsUnder p placed ++ [n]) := by
  by_cases hblocks : blocks placed n = true
  · rw [add_of_blocks hblocks]
    exact List.sublist_append_left _ _
  · rw [add_of_not_blocks hblocks, hitsUnder_append, hitsUnder_single horigin hparent]

theorem hitsUnder_foldl_add {p : String} {xs : List Node}
    (hxs : ∀ c ∈ xs, c.origin ≠ .fetched ∧ c.parent = p) (placed : List Placed) :
    (hitsUnder p (xs.foldl (fun placed c => add placed c) placed)).Sublist
      (hitsUnder p placed ++ xs) := by
  induction xs generalizing placed with
  | nil => simp
  | cons c xs ih =>
      obtain ⟨⟨horigin, hparent⟩, hrest⟩ := List.forall_mem_cons.mp hxs
      refine (ih hrest _).trans ?_
      rw [List.append_cons]
      exact (hitsUnder_add horigin hparent placed).append_right xs

end Placed

namespace Family

/-- The rows of the page have ids, come from it, and stand behind their parents if these are there;
and a marked copy keeps the id of its row. -/
structure Lineal (f : Family) : Prop where
  origin_ne : ∀ n ∈ f.page, n.origin ≠ .fetched
  id_ne : ∀ n ∈ f.page, n.id ≠ ""
  parent_ne : ∀ n ∈ f.page, n.parent ≠ n.id
  parent_before : ∀ pre n post, f.page = pre ++ n :: post → n.parent ≠ "" →
    (∃ m ∈ f.page, m.id = n.parent) → ∃ m ∈ pre, m.id = n.parent
  id_expanded : ∀ q ∈ f.parents, (f.hierarchy.expanded q).id = q.id

variable {f : Family}

theorem Lineal.pageChildren_eq (h : f.Lineal) (parent : Node) :
    f.pageChildren parent = f.page.filter (·.parent == parent.id) := by
  refine List.filter_congr fun c hc => ?_
  by_cases hparent : c.parent = parent.id
  · have hself : c.id ≠ parent.id := fun heq => h.parent_ne c hc (hparent.trans heq.symm)
    simp [h.id_ne c hc, hself, hparent]
  · simp [hparent]

section Turn

variable {pre post : List Node} {n : Node}

theorem Lineal.blocks_foldl (h : f.Lineal) {rows : List Node} (hrows : rows ⊆ f.page) {m : Node}
    (hm : m ∈ rows) (placed : List Placed) :
    Placed.blocks (rows.foldl f.addRow placed) m = true :=
  Placed.blocks_iff.mpr ⟨h.id_ne m (hrows hm), exists_key_foldl_addRow hrows hm placed⟩

/-- A parent that is to be placed before a row is a fetched one: parents on the page have had their
turns. -/
theorem Lineal.origin_of_parentOf? (h : f.Lineal) (hpage : f.page = pre ++ n :: post) {p : Node}
    (hp : f.parentOf? n = some p)
    (hblocks : ¬ Placed.blocks (pre.foldl f.addRow []) p = true) : p.origin = .fetched := by
  obtain ⟨hparent, hfind | ⟨-, q, -, rfl⟩⟩ := parentOf?_eq_some hp
  · exfalso
    have hid : p.id = n.parent := by simpa using List.find?_some hfind
    obtain ⟨m, hm, hmid⟩ := h.parent_before pre n post hpage hparent
      ⟨p, List.mem_of_find?_eq_some hfind, hid⟩
    have hmem := (mem_of_parentOf? hpage hm hmid hp).1
    exact hblocks (h.blocks_foldl (fun m hm => hpage ▸ List.mem_append_left _ hm) hmem [])
  · rfl

end Turn

/-! ### The order of siblings -/

/-- The rows of the page under a parent are placed on their own turns or, once they were gathered,
have all been placed. -/
inductive Standing (f : Family) (p : String) (pre : List Node) (placed : List Placed) : Prop
  | waiting (turned : ∀ m ∈ pre, Placed.blocks placed m = true)
      (ordered : (Placed.hitsUnder p placed).Sublist (pre.filter (·.parent == p)))
  | gathered (placed_all : ∀ m ∈ f.page, m.parent = p → Placed.blocks placed m = true)
      (ordered : (Placed.hitsUnder p placed).Sublist (f.page.filter (·.parent == p)))

section Standing

variable {p : String} {pre post : List Node} {n : Node} {placed placed' : List Placed}

theorem Standing.placing {offers : Placed → Prop} (h : f.Standing p pre placed)
    (hrun : Placing offers placed placed')
    (hother : ∀ q, offers q → q.node.origin = .fetched ∨ q.node.parent ≠ p) :
    f.Standing p pre placed' := by
  have hsame := Placed.hitsUnder_placing hrun hother
  cases h with
  | waiting turned ordered =>
      exact .waiting (fun m hm => hrun.blocks (turned m hm)) (hsame ▸ ordered)
  | gathered placed_all ordered =>
      exact .gathered (fun m hm hparent => hrun.blocks (placed_all m hm hparent)) (hsame ▸ ordered)

/-- Gathering the children of a parent leaves those in place that have had their turns. -/
theorem Standing.gather (h : f.Standing p pre placed) (hf : f.Lineal)
    (hpage : f.page = pre ++ post) : f.Standing p pre ((f.page.filter (·.parent == p)).foldl
      (fun placed c => Placed.add placed c) placed) := by
  have hall : ∀ c ∈ f.page.filter (·.parent == p), c ∈ f.page ∧ c.parent = p := by
    intro c hc
    exact ⟨List.mem_of_mem_filter hc, by simpa using List.of_mem_filter hc⟩
  cases h with
  | gathered placed_all ordered =>
      have hnone : (f.page.filter (·.parent == p)).foldl
          (fun placed c => Placed.add placed c) placed = placed :=
        Placed.foldl_add_of_blocks (fun _ => none) fun c hc =>
          placed_all c (hall c hc).1 (hall c hc).2
      rw [hnone]
      exact .gathered placed_all ordered
  | waiting turned ordered =>
      have hsplit : f.page.filter (·.parent == p) =
          pre.filter (·.parent == p) ++ post.filter (·.parent == p) := by
        rw [hpage, List.filter_append]
      refine .gathered (fun m hm hparent => ?_) ?_
      · have hmem : m ∈ f.page.filter (·.parent == p) :=
          List.mem_filter.mpr ⟨hm, by simpa using hparent⟩
        obtain ⟨q, hq, hkey⟩ := exists_key_foldl id (fun _ => none) placed hmem
        exact Placed.blocks_iff.mpr ⟨hf.id_ne m hm, q, hq, hkey⟩
      · -- Those that have had their turns are there, and the others follow in their order.
        have hturned : (pre.filter (·.parent == p)).foldl
            (fun placed c => Placed.add placed c) placed = placed :=
          Placed.foldl_add_of_blocks (fun _ => none) fun c hc =>
            turned c (List.mem_of_mem_filter hc)
        rw [hsplit, List.foldl_append, hturned]
        refine (Placed.hitsUnder_foldl_add (fun c hc => ?_) placed).trans
          (ordered.append_right _)
        obtain ⟨hmem, hparent⟩ := hall c (hsplit ▸ List.mem_append_right _ hc)
        exact ⟨hf.origin_ne c hmem, hparent⟩

theorem Standing.addChildren (h : f.Standing p pre placed) (hf : f.Lineal)
    (hpage : f.page = pre ++ post) (parent : Node) :
    f.Standing p pre (f.addChildren placed parent) := by
  by_cases hid : parent.id = p
  · have hchildren := h.gather hf hpage
    rw [← hid, ← hf.pageChildren_eq] at hchildren
    refine (hid ▸ hchildren).placing (Placing.foldl f.hierarchy.expanded
      (fun c => some (.childPlaced parent.id c.id)) _ _ fun _ c _ _ _ => ?_) fun q hq => hq
    exact .inl rfl
  · refine h.placing (addChildren_below placed parent) ?_
    rintro q (hq | ⟨c, -, hnode⟩)
    · exact .inr fun heq => hid ((mem_pageChildren.mp hq).2.2.2.symm.trans heq)
    · exact .inl (by rw [hnode]; rfl)

theorem Standing.addParent (hf : f.Lineal) (hpage : f.page = pre ++ n :: post)
    (h : f.Standing p pre (pre.foldl f.addRow [])) :
    f.Standing p pre (f.addParent (pre.foldl f.addRow []) n) := by
  rcases f.addParent_cases (pre.foldl f.addRow []) n with hnone | ⟨q, hq, hblocks, heq⟩
  · rwa [hnone]
  · have hadd := Placing.single (pre.foldl f.addRow []) q (some (.parentPlaced n.parent q.id))
    rw [Placed.add_of_not_blocks hblocks] at hadd
    have horigin := hf.origin_of_parentOf? hpage hq hblocks
    have hplaced := h.placing hadd fun r hr => .inl (hr ▸ horigin)
    rw [heq]
    split
    · exact hplaced.addChildren hf hpage q
    · exact hplaced

theorem Standing.turn (h : f.Standing p pre placed) (hf : f.Lineal)
    (hpage : f.page = pre ++ n :: post) : f.Standing p (pre ++ [n]) (Placed.add placed n) := by
  have hn : n ∈ f.page := hpage ▸ List.mem_append_right pre List.mem_cons_self
  have hrun := Placing.single placed n none
  by_cases hparent : n.parent = p
  · cases h with
    | gathered placed_all ordered =>
        rw [Placed.add_of_blocks (placed_all n hn hparent)]
        exact .gathered placed_all ordered
    | waiting turned ordered =>
        refine .waiting (fun m hm => ?_) ?_
        · rcases List.mem_append.mp hm with hm | hm
          · exact hrun.blocks (turned m hm)
          · rw [List.mem_singleton.mp hm]
            exact Placed.blocks_add (hf.id_ne n hn) placed none
        · have hadd := Placed.hitsUnder_add (hf.origin_ne n hn) hparent placed
          have hlast : [n].filter (·.parent == p) = [n] := by simp [hparent]
          rw [List.filter_append, hlast]
          exact hadd.trans (ordered.append_right [n])
  · have hother := h.placing hrun fun q hq => .inr (hq ▸ hparent)
    cases hother with
    | gathered placed_all ordered => exact .gathered placed_all ordered
    | waiting turned ordered =>
        refine .waiting (fun m hm => ?_) ?_
        · rcases List.mem_append.mp hm with hm | hm
          · exact turned m hm
          · rw [List.mem_singleton.mp hm]
            exact Placed.blocks_add (hf.id_ne n hn) placed none
        · rw [List.filter_append]
          exact ordered.trans (List.sublist_append_left _ _)

theorem Standing.addRow (hf : f.Lineal) (hpage : f.page = pre ++ n :: post)
    (h : f.Standing p pre (pre.foldl f.addRow [])) :
    f.Standing p (pre ++ [n]) (f.addRow (pre.foldl f.addRow []) n) := by
  have hturn := (Standing.addParent hf hpage h).turn hf hpage
  rw [addRow_eq]
  have hpage' : f.page = (pre ++ [n]) ++ post := by simpa using hpage
  split
  · exact hturn.addChildren hf hpage' n
  · exact hturn

theorem Lineal.standing (hf : f.Lineal) (p : String) (hpage : f.page = pre ++ post) :
    f.Standing p pre (pre.foldl f.addRow []) :=
  turns_induction (.waiting (List.forall_mem_nil _) (List.Sublist.refl _))
    (fun _ _ _ hpage h => Standing.addRow hf hpage h) hpage

/-- A merge keeps the order of rows with one parent. -/
theorem Lineal.hitsUnder_merge (hf : f.Lineal) (p : String) :
    (Placed.hitsUnder p f.merge).Sublist (f.page.filter (·.parent == p)) := by
  cases hf.standing p (List.append_nil f.page).symm with
  | waiting turned ordered => exact ordered
  | gathered placed_all ordered => exact ordered

end Standing

end Family

end CriteriaSearch
