import CriteriaSearch.Proofs.Page.Merge

/-!
# Relatives of a page

A merge leaves no gap: the parents that are known for the rows of the page are placed, and so are
the children that were fetched for parents on the page and for fetched parents. For the latter it is
an invariant of the merge that a parent never stands without its children.
-/

namespace CriteriaSearch

namespace Family

variable {f : Family}

theorem exists_key_addParent {n p : Node} (hp : f.parentOf? n = some p) (placed : List Placed) :
    ∃ q ∈ f.addParent placed n, q.node.key = p.key := by
  simp only [addParent, hp]
  by_cases hblocks : Placed.blocks placed p = true
  · rw [if_pos hblocks]
    exact (Placed.blocks_iff.mp hblocks).2
  · rw [if_neg hblocks]
    refine ⟨⟨p, some (.parentPlaced n.parent p.id)⟩, ?_, rfl⟩
    split
    · exact (addChildren_placing _ p).mem_of_mem (by simp)
    · simp

/-- The parent of a row is there after the turn of the row. -/
theorem exists_key_foldl_of_parentOf? {rows : List Node} (hrows : rows ⊆ f.page) {n p : Node}
    (hn : n ∈ rows) (hp : f.parentOf? n = some p) (placed : List Placed) :
    ∃ q ∈ rows.foldl f.addRow placed, q.node.key = p.key := by
  refine exists_mem_foldl_addRow hrows hn (fun placed => ?_) placed
  obtain ⟨q, hq, hkey⟩ := exists_key_addParent hp placed
  have hadd := (Placing.single (f.addParent placed n) n none).mem_of_mem hq
  exact ⟨q, (addRow_placing placed n).mem_of_mem hadd, hkey⟩

theorem exists_key_of_parentOf? {n p : Node} (hn : n ∈ f.page) (hp : f.parentOf? n = some p) :
    ∃ q ∈ f.merge, q.node.key = p.key :=
  exists_key_foldl_of_parentOf? (List.Subset.refl _) hn hp []

theorem exists_key_addChildren {parent c : Node} (hc : c ∈ f.fetchedChildren parent)
    (placed : List Placed) :
    ∃ q ∈ f.addChildren placed parent, q.node.key = (f.hierarchy.expanded c).key :=
  exists_key_foldl f.hierarchy.expanded (fun c => some (.childPlaced parent.id c.id)) _ hc

theorem exists_key_of_needsChildren {n c : Node} (hn : n ∈ f.page)
    (hneeds : f.needsChildren n = true) (hc : c ∈ f.fetchedChildren n) :
    ∃ q ∈ f.merge, q.node.key = (f.hierarchy.expanded c).key := by
  refine exists_mem_foldl_addRow (List.Subset.refl _) hn (fun placed => ?_) []
  rw [addRow, if_pos hneeds]
  exact exists_key_addChildren hc _

/-! ### Fetched parents -/

/-- The children that were fetched for a parent are placed. -/
def Attended (f : Family) (p : Node) (placed : List Placed) : Prop :=
  ∀ c ∈ f.fetchedChildren p, ∃ q ∈ placed, q.node.key = (f.hierarchy.expanded c).key

/-- If the key of a parent is there, then so are its children. -/
def Attends (f : Family) (p : Node) (placed : List Placed) : Prop :=
  (∃ q ∈ placed, q.node.key = p.key) → f.Attended p placed

/-- A parent that enters a merge only before rows that name it, and with its children. -/
structure Apart (f : Family) (p : Node) : Prop where
  not_page : ∀ n ∈ f.page, n.key ≠ p.key
  not_child : ∀ parent, ∀ c ∈ f.fetchedChildren parent, (f.hierarchy.expanded c).key ≠ p.key
  needs : ∀ n q, f.parentOf? n = some q → q.key = p.key → f.needsChildren q = true

variable {p : Node} {placed placed' : List Placed} {offers : Placed → Prop}

theorem Attended.mono (h : f.Attended p placed) (hrun : Placing offers placed placed') :
    f.Attended p placed' := by
  intro c hc
  obtain ⟨q, hq, hkey⟩ := h c hc
  exact ⟨q, hrun.mem_of_mem hq, hkey⟩

theorem Attends.placing (h : f.Attends p placed) (hrun : Placing offers placed placed')
    (hother : ∀ q, offers q → q.node.key ≠ p.key) : f.Attends p placed' := by
  rintro ⟨q, hq, hkey⟩
  rcases hrun.mem_or_offers hq with hq | hoffer
  · exact (h ⟨q, hq, hkey⟩).mono hrun
  · exact absurd hkey (hother q hoffer)

namespace Apart

theorem addChildren (h : f.Apart p) (hplaced : f.Attends p placed) (parent : Node) :
    f.Attends p (f.addChildren placed parent) := by
  refine hplaced.placing (addChildren_below placed parent) ?_
  rintro q (hq | ⟨c, hc, hnode⟩)
  · exact h.not_page q.node (mem_pageChildren.mp hq).1
  · rw [hnode]
    exact h.not_child parent c hc

theorem addParent (h : f.Apart p) (hplaced : f.Attends p placed) (n : Node) :
    f.Attends p (f.addParent placed n) := by
  rcases f.addParent_cases placed n with hnone | ⟨q, hq, hblocks, heq⟩
  · rwa [hnone]
  · rw [heq]
    by_cases hkey : q.key = p.key
    · -- `q` stands for `p`, and the fetched children depend on the id only.
      rw [if_pos (h.needs n q hq hkey)]
      intro _ c hc
      refine exists_key_addChildren ?_ _
      unfold fetchedChildren at hc ⊢
      rwa [Node.id_eq_of_key hkey]
    · have hadd := Placing.single placed q (some (.parentPlaced n.parent q.id))
      rw [Placed.add_of_not_blocks hblocks] at hadd
      have hplaced' := hplaced.placing hadd fun r hr => hr ▸ hkey
      split
      · exact h.addChildren hplaced' q
      · exact hplaced'

theorem addRow (h : f.Apart p) (hplaced : f.Attends p placed) {n : Node} (hn : n ∈ f.page) :
    f.Attends p (f.addRow placed n) := by
  have hplaced' := (h.addParent hplaced n).placing (Placing.single _ n none)
    fun r hr => hr ▸ h.not_page n hn
  unfold Family.addRow
  split
  · exact h.addChildren hplaced' n
  · exact hplaced'

theorem foldl_addRow (h : f.Apart p) {rows : List Node} (hrows : rows ⊆ f.page)
    (hplaced : f.Attends p placed) : f.Attends p (rows.foldl f.addRow placed) := by
  induction rows generalizing placed with
  | nil => exact hplaced
  | cons n rows ih =>
      exact ih (fun m hm => hrows (List.mem_cons_of_mem n hm))
        (h.addRow hplaced (hrows List.mem_cons_self))

/-- A merge never places such a parent without its children. -/
theorem merge (h : f.Apart p) : f.Attends p f.merge :=
  h.foldl_addRow (List.Subset.refl _) fun ⟨_, hq, _⟩ => absurd hq List.not_mem_nil

end Apart

end Family

end CriteriaSearch
