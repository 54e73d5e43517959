import CriteriaSearch.Proofs.Page.Completion
import CriteriaSearch.Proofs.Search.Replies

/-!
# Hits and marked copies

A row of the page keeps its place unless a marked copy with its key was placed before its turn. Only
a copy that came with the children of another parent can do that: whoever places the children of the
parent of a row places the row itself first.
-/

namespace CriteriaSearch

namespace Family

variable {f : Family}

/-- A row is the first one of the page with its key. -/
def First (f : Family) (n : Node) : Prop := f.page.find? (·.key == n.key) = some n

theorem First.mem {n : Node} (h : f.First n) : n ∈ f.page := List.mem_of_find?_eq_some h

theorem First.eq_of_key {m n : Node} (hm : f.First m) (hn : f.First n) (hkey : m.key = n.key) :
    m = n := by
  unfold First at hm
  rw [hkey] at hm
  exact Option.some.inj (hm.symm.trans hn)

theorem first_of_split {pre post : List Node} {n : Node} (hpage : f.page = pre ++ n :: post)
    (hpre : ∀ m ∈ pre, m.key ≠ n.key) : f.First n := by
  refine List.find?_eq_some_iff_append.mpr ⟨by simp, pre, post, hpage, fun m hm => ?_⟩
  simpa using hpre m hm

/-- The first child of a parent with a key is the first row of the page with it: the key tells
whether a row is a child of the parent. -/
theorem first_of_pageChildren {parent c : Node} {pre post : List Node}
    (hsplit : f.pageChildren parent = pre ++ c :: post) (hpre : ∀ m ∈ pre, m.key ≠ c.key) :
    f.First c := by
  have hfind : (f.pageChildren parent).find? (·.key == c.key) = some c :=
    List.find?_eq_some_iff_append.mpr
      ⟨by simp, pre, post, hsplit, fun m hm => by simpa using hpre m hm⟩
  have hc : c ∈ f.pageChildren parent := hsplit ▸ List.mem_append_right pre List.mem_cons_self
  obtain ⟨-, hid, hother, hparent⟩ := mem_pageChildren.mp hc
  rw [pageChildren, List.find?_filter] at hfind
  unfold First
  rw [← hfind]
  congr 1
  funext m
  by_cases hkey : m.key = c.key
  · simp [hkey, Node.id_eq_of_key hkey, Node.parent_eq_of_key hkey, hid, hother, hparent]
  · simp [hkey]

/-- What is placed: rows without an id, first rows of the page with their keys, and marked copies of
parents that are not on the page and of children that are not among those of the page. -/
inductive Entry (f : Family) : Placed → Prop
  | bare {n : Node} (id_eq : n.id = "") (note : Option MergeNote) : Entry f ⟨n, note⟩
  | first {n : Node} (first : f.First n) (note : Option MergeNote) : Entry f ⟨n, note⟩
  | parent {p : Node} (mem : p ∈ f.parents) (absent : ∀ m ∈ f.page, m.id ≠ p.id)
      (note : Option MergeNote) : Entry f ⟨f.hierarchy.expanded p, note⟩
  | child {parent c : Node} (mem : c ∈ f.fetchedChildren parent)
      (foreign : ∀ m ∈ f.pageChildren parent, m.key ≠ (f.hierarchy.expanded c).key) :
      Entry f ⟨f.hierarchy.expanded c, some (.childPlaced parent.id c.id)⟩

theorem addChildren_entries (placed : List Placed) (parent : Node) :
    Placing f.Entry placed (f.addChildren placed parent) := by
  refine Placing.trans
    (Placing.foldl id (fun _ => none) _ placed fun pre c post hsplit hblocks => ?_)
    (Placing.foldl f.hierarchy.expanded (fun c => some (.childPlaced parent.id c.id)) _ _
      fun pre c post hsplit hblocks => ?_)
  · have hc : c ∈ f.pageChildren parent := hsplit ▸ List.mem_append_right pre List.mem_cons_self
    -- If an earlier child had the key, then it would be placed, and block this one.
    refine .first (first_of_pageChildren hsplit fun m hm hkey => hblocks ?_) _
    obtain ⟨p, hp, hpkey⟩ := exists_key_foldl id (fun _ => none) placed hm
    exact Placed.blocks_iff.mpr ⟨(mem_pageChildren.mp hc).2.1, p, hp, hpkey.trans hkey⟩
  · have hmem : c ∈ f.fetchedChildren parent :=
      hsplit ▸ List.mem_append_right pre List.mem_cons_self
    by_cases hid : (f.hierarchy.expanded c).id = ""
    · exact .bare hid _
    · -- All children on the page have been placed before the first fetched one.
      refine .child hmem fun m hm hkey => hblocks ?_
      obtain ⟨p, hp, hpkey⟩ := exists_key_foldl id (fun _ => none) placed hm
      have hafter : Placing (fun _ => True) _ _ :=
        Placing.foldl f.hierarchy.expanded (fun c => some (.childPlaced parent.id c.id)) pre
          ((f.pageChildren parent).foldl (fun placed c => Placed.add placed c) placed)
          fun _ _ _ _ _ => trivial
      exact Placed.blocks_iff.mpr ⟨hid, p, hafter.mem_of_mem hp, hpkey.trans hkey⟩

theorem entry_of_parentOf? {n p : Node} (h : f.parentOf? n = some p) (note : Option MergeNote) :
    f.Entry ⟨p, note⟩ := by
  obtain ⟨-, hpage | ⟨hnone, q, hq, rfl⟩⟩ := parentOf?_eq_some h
  · obtain ⟨hid, pre, post, hsplit, hpre⟩ := List.find?_eq_some_iff_append.mp hpage
    refine .first (first_of_split hsplit fun m hm hkey => ?_) note
    have hne : m.id ≠ n.parent := by simpa using hpre m hm
    exact hne ((Node.id_eq_of_key hkey).trans (by simpa using hid))
  · have hid : q.id = n.parent := by simpa using List.find?_some hq
    refine .parent (List.mem_of_find?_eq_some hq) (fun m hm heq => ?_) note
    exact List.find?_eq_none.mp hnone m hm (by simpa using heq.trans hid)

theorem addParent_entries (placed : List Placed) (n : Node) :
    Placing f.Entry placed (f.addParent placed n) := by
  rcases f.addParent_cases placed n with hnone | ⟨p, hp, hblocks, heq⟩
  · rw [hnone]
    exact .refl placed
  · have hadd := (Placing.refl placed).add p (some (.parentPlaced n.parent p.id))
      (entry_of_parentOf? hp _)
    rw [Placed.add_of_not_blocks hblocks] at hadd
    rw [heq]
    split
    · exact hadd.trans (addChildren_entries _ p)
    · exact hadd

/-- The keys of all rows before a row are placed on its turn, so if it is placed, it is a first
one. -/
theorem add_entry {pre post : List Node} {n : Node} (hpage : f.page = pre ++ n :: post) :
    Placing f.Entry (f.addParent (pre.foldl f.addRow []) n)
      (Placed.add (f.addParent (pre.foldl f.addRow []) n) n) := by
  by_cases hblocks : Placed.blocks (f.addParent (pre.foldl f.addRow []) n) n = true
  · rw [Placed.add_of_blocks hblocks]
    exact .refl _
  · refine (Placing.refl _).add n none ?_
    by_cases hid : n.id = ""
    · exact .bare hid _
    · refine .first (first_of_split hpage fun m hm hkey => hblocks ?_) _
      have hpre : pre ⊆ f.page := fun k hk => hpage ▸ List.mem_append_left _ hk
      obtain ⟨p, hp, hpkey⟩ := exists_key_foldl_addRow hpre hm []
      exact Placed.blocks_iff.mpr
        ⟨hid, p, (addParent_placing _ n).mem_of_mem hp, hpkey.trans hkey⟩

theorem addRow_entries {pre post : List Node} {n : Node} (hpage : f.page = pre ++ n :: post) :
    Placing f.Entry (pre.foldl f.addRow []) (f.addRow (pre.foldl f.addRow []) n) := by
  refine (addParent_entries _ n).trans ((add_entry hpage).trans ?_)
  unfold addRow
  split
  · exact addChildren_entries _ n
  · exact .refl _

theorem foldl_addRow_entries {pre post : List Node} (hpage : f.page = pre ++ post) :
    Placing f.Entry [] (pre.foldl f.addRow []) :=
  turns_induction (P := fun _ placed => Placing f.Entry [] placed) (.refl [])
    (fun _ _ _ hpage h => h.trans (addRow_entries hpage)) hpage

/-! ### Turns -/

section Turn

variable {pre post : List Node} {n : Node}

/-- What is placed by the turn of a row. -/
def placedBefore (f : Family) (pre : List Node) (n : Node) : List Placed :=
  f.addParent (pre.foldl f.addRow []) n

theorem placing_of_turn (hpage : f.page = pre ++ n :: post) :
    Placing f.Offer (Placed.add (f.placedBefore pre n) n) f.merge := by
  have hpost : post ⊆ f.page := fun k hk =>
    hpage ▸ List.mem_append_right pre (List.mem_cons_of_mem n hk)
  have hrow := (addRow_placing (pre.foldl f.addRow []) n).mono fun p =>
    (.inl : f.Aside p → f.Offer p)
  rw [merge, hpage, List.foldl_append, List.foldl_cons]
  exact hrow.trans (foldl_addRow_placing hpost _)

theorem entry_of_mem_placedBefore (hpage : f.page = pre ++ n :: post) {p : Placed}
    (hp : p ∈ f.placedBefore pre n) : f.Entry p :=
  (((foldl_addRow_entries hpage).trans (addParent_entries _ n)).mem_or_offers hp).resolve_left
    List.not_mem_nil

/-- A copy of a fetched row took the place of a row: it has the key of the row and is there on its
turn. -/
def Displaces (f : Family) (pre : List Node) (n : Node) (p : Placed) : Prop :=
  p ∈ f.placedBefore pre n ∧ p.node.key = n.key ∧ p.node.origin = .fetched

/-- The first row with a key is placed unless it is displaced. -/
theorem mem_merge_iff (hpage : f.page = pre ++ n :: post) (hpre : ∀ m ∈ pre, m.key ≠ n.key)
    (hid : n.id ≠ "") (horigin : n.origin ≠ .fetched) :
    n ∈ f.merge.map Placed.node ↔ ¬ ∃ p, f.Displaces pre n p := by
  have hturn := placing_of_turn hpage
  constructor
  · rintro hn ⟨p, hp, hkey, hfetched⟩
    obtain ⟨q, hq, rfl⟩ := List.mem_map.mp hn
    have hadd := (add_entry hpage).mem_of_mem hp
    have hp' := hturn.mem_of_mem hadd
    have heq := merge_distinct.eq_of_key hq hp' hid hkey.symm
    exact horigin (heq ▸ hfetched)
  · intro hnone
    -- Either the row is placed on its turn, or what blocks it is no copy, hence the row itself.
    by_cases hblocks : Placed.blocks (f.placedBefore pre n) n = true
    · obtain ⟨-, p, hp, hkey⟩ := Placed.blocks_iff.mp hblocks
      have hmem : p ∈ f.merge := by
        rw [Placed.add_of_blocks hblocks] at hturn
        exact hturn.mem_of_mem hp
      have hnode : p.node = n := by
        cases entry_of_mem_placedBefore hpage hp with
        | bare id_eq note => exact absurd ((Node.id_eq_of_key hkey).symm.trans id_eq) hid
        | first first note => exact first.eq_of_key (first_of_split hpage hpre) hkey
        | parent mem absent note => exact absurd ⟨_, hp, hkey, rfl⟩ hnone
        | child mem foreign => exact absurd ⟨_, hp, hkey, rfl⟩ hnone
      exact List.mem_map.mpr ⟨p, hmem, hnode⟩
    · rw [Placed.add_of_not_blocks hblocks] at hturn
      exact List.mem_map.mpr ⟨⟨n, none⟩, hturn.mem_of_mem (by simp), rfl⟩

/-- A row is displaced only by a child that was fetched for another parent than its own. -/
theorem Displaces.foreign_child {before fetched : List Row} (hread : f.ReadOff before fetched)
    (hname : f.hierarchy.id ≠ f.hierarchy.isExpanded) (hpage : f.page = pre ++ n :: post)
    (hid : n.id ≠ "") {p : Placed} (hp : f.Displaces pre n p) :
    ∃ parent c, c ∈ f.fetchedChildren parent ∧
      p = ⟨f.hierarchy.expanded c, some (.childPlaced parent.id c.id)⟩ ∧
      (parent.id ≠ n.parent ∨ parent.id = n.id) := by
  obtain ⟨hmem, hkey, hfetched⟩ := hp
  have hn : n ∈ f.page := hpage ▸ List.mem_append_right pre List.mem_cons_self
  cases entry_of_mem_placedBefore hpage hmem with
  | bare id_eq note => exact absurd ((Node.id_eq_of_key hkey).symm.trans id_eq) hid
  | first first note =>
      obtain ⟨i, row, -, rfl⟩ := hread.mem_page.mp first.mem
      cases hfetched
  | @parent q mem absent note =>
      obtain ⟨row, -, rfl⟩ := hread.parent_fetched q mem
      refine absurd ?_ (absent n hn)
      rw [← Node.id_eq_of_key hkey]
      exact f.hierarchy.cellText_markExpanded row hname
  | @child parent c mem foreign =>
      refine ⟨parent, c, mem, rfl, ?_⟩
      by_contra hown
      obtain ⟨hparent, hother⟩ := not_or.mp hown
      refine foreign n (mem_pageChildren.mpr ⟨hn, hid, fun h => hother h.symm, ?_⟩) hkey.symm
      exact (not_not.mp hparent).symm

end Turn

/-- If all children that were fetched for a parent name it as their parent, then no row of the page
is displaced. -/
theorem mem_merge_of_own_children {before fetched : List Row} (hread : f.ReadOff before fetched)
    (hname : f.hierarchy.id ≠ f.hierarchy.isExpanded)
    (hown : ∀ parent, ∀ c ∈ f.fetchedChildren parent,
      (f.hierarchy.expanded c).parent = parent.id ∧ (f.hierarchy.expanded c).id ≠ parent.id)
    {n : Node} (hfirst : f.First n) (hid : n.id ≠ "") : n ∈ f.merge.map Placed.node := by
  obtain ⟨-, pre, post, hpage, hpre⟩ := List.find?_eq_some_iff_append.mp hfirst
  have hkeys : ∀ m ∈ pre, m.key ≠ n.key := fun m hm => by simpa using hpre m hm
  obtain ⟨i, row, -, rfl⟩ := hread.mem_page.mp hfirst.mem
  refine (mem_merge_iff hpage hkeys hid Origin.noConfusion).mpr ?_
  rintro ⟨p, hp⟩
  obtain ⟨parent, c, hc, rfl, hforeign⟩ := hp.foreign_child hread hname hpage hid
  obtain ⟨hparent, hother⟩ := hown parent c hc
  rcases hforeign with hne | heq
  · exact hne (hparent.symm.trans (Node.parent_eq_of_key hp.2.1))
  · exact hother ((Node.id_eq_of_key hp.2.1).trans heq.symm)

end Family

namespace Engine

variable {σ : Type}

/-- If every reply for a parent has children of it only, then no row of the page is displaced. -/
theorem Supplied.mem_merge_of_own_children {x : Engine σ} {e : Expansion} {rows : List Row}
    {exchanges : List Exchange} {f : Family}
    (h : x.Supplied (x.pageOf rows) e exchanges (.ok f)) (hhierarchy : f.hierarchy = x.hierarchy)
    (hnames : x.hierarchy.names.Nodup)
    (hown : ∀ parent reply, x.ChildReply e exchanges parent reply → ∀ row ∈ reply.rows,
      (x.hierarchy.key row).2 = parent ∧ (x.hierarchy.key row).1 ≠ parent)
    {n : Node} (hfirst : f.First n) (hid : n.id ≠ "") : n ∈ f.merge.map Placed.node := by
  have hname := x.hierarchy.id_ne_isExpanded hnames
  rw [← hhierarchy] at hname
  refine Family.mem_merge_of_own_children h.readOff hname (fun parent c hc => ?_) hfirst hid
  obtain ⟨reply, hreply, row, hrow, rfl⟩ := h.mem_childReply hc
  obtain ⟨hcid, hcparent, -⟩ := x.hierarchy.expanded_node hnames row
  obtain ⟨hparent, hother⟩ := hown parent.id reply hreply row hrow
  rw [hhierarchy, hcid, hcparent]
  exact ⟨hparent, hother⟩

/-- The first row of a page with a key is left as it is by an expansion exactly if no marked copy
with its key is placed before its turn. Such a copy is a child that was fetched for another parent
than the one of the row; there is none if every reply for a parent has children of it only. -/
theorem expand_keeps_hit_iff (x : Engine σ) (t : Table) (e : Expansion) (s : σ) {f : Family}
    (hgather : (x.gather t.rows e s).1.1 = .ok f) {pre post : List Node} {n : Node}
    (hpage : reconcile (x.hierarchy.page t.rows) = pre ++ n :: post) (hid : n.id ≠ "")
    (hpre : ∀ m ∈ pre, m.key ≠ n.key) :
    (x.Idle t e → (x.expand t e s).1.outcome = .ok t) ∧
      (¬ x.Idle t e →
        (x.expand t e s).1.outcome = .ok (withMerged x.hierarchy t f.merge)) ∧
      (n ∈ f.merge.map Placed.node ↔ ¬ ∃ p, f.Displaces pre n p) ∧
      (x.hierarchy.id ≠ x.hierarchy.isExpanded → ∀ p, f.Displaces pre n p →
        ∃ parent c, c ∈ f.fetchedChildren parent ∧
          p = ⟨x.hierarchy.expanded c, some (.childPlaced parent.id c.id)⟩ ∧
          (parent.id ≠ n.parent ∨ parent.id = n.id)) ∧
      (¬ x.Idle t e → x.hierarchy.names.Nodup →
        (∀ parent reply, x.ChildReply e (x.exchanges t e s) parent reply → ∀ row ∈ reply.rows,
          (x.hierarchy.key row).2 = parent ∧ (x.hierarchy.key row).1 ≠ parent) →
        n ∈ f.merge.map Placed.node) := by
  obtain ⟨exchanges, hgathered⟩ := x.exists_gathered t.rows e s
  rw [hgather] at hgathered
  have hread := hgathered.readOff
  have hpage' : f.page = pre ++ n :: post := hgathered.page_eq.trans hpage
  have hn : n ∈ f.page := hpage' ▸ List.mem_append_right pre List.mem_cons_self
  obtain ⟨i, row, -, hnode⟩ := hread.mem_page.mp hn
  have horigin : n.origin ≠ .fetched := by
    rw [hnode]
    exact Origin.noConfusion
  refine ⟨fun hidle => x.expand_of_idle hidle s, fun hbusy => x.expand_of_gather hbusy hgather,
    Family.mem_merge_iff hpage' hpre hid horigin, fun hname p hp => ?_,
    fun hbusy hnames hown => ?_⟩
  · rw [← hgathered.hierarchy_eq] at hname ⊢
    exact hp.foreign_child hread hname hpage' hid
  · have hbrought := x.gathered_of_busy hbusy s
    rw [hgather] at hbrought
    exact hbrought.supplied_of_ok.mem_merge_of_own_children hgathered.hierarchy_eq hnames hown
      (Family.first_of_split hpage' hpre) hid

/-- A child that names two parents, of which only the first one is read. -/
def childOfTwo : Row := [("id", .text "C1"), ("parent_id", .list [.text "Q", .text "P"])]

def secondParent : Row := [("id", .text "P"), ("is_parent", .bool true)]

def stepfamily : Table where
  columns := [⟨"id", .text⟩, ⟨"is_parent", .boolean⟩, ⟨"parent_id", .text⟩]
  rows := [secondParent, childOfTwo]

/-- A source that finds the child by either of its parents. -/
def registry : Engine Unit where
  source := .ofFunction fun _ => .ok { rows := [childOfTwo] }

theorem arrange_stepfamily : registry.hierarchy.arrange registry.room stepfamily.rows =
    .ok [registry.hierarchy.node (.hit 0) secondParent,
      registry.hierarchy.node (.hit 1) childOfTwo] := rfl

theorem pageOf_stepfamily : reconcile (registry.hierarchy.page stepfamily.rows) =
    [registry.hierarchy.node (.hit 0) secondParent,
      registry.hierarchy.node (.hit 1) childOfTwo] :=
  (registry.arrange_eq_pageOf arrange_stepfamily).symm

/-- What is gathered for the second parent. -/
def stepfamilyGathered : Family where
  hierarchy := registry.hierarchy
  expansion := { mode := .child }
  page := [registry.hierarchy.node (.hit 0) secondParent,
    registry.hierarchy.node (.hit 1) childOfTwo]
  children := [("P", [registry.hierarchy.node .fetched childOfTwo])]

theorem gather_stepfamily :
    (registry.gather stepfamily.rows { mode := .child } ()).1.1 = .ok stepfamilyGathered := rfl

theorem registry_keeps_hit_iff :
    (¬ registry.Idle stepfamily { mode := .child } →
      (registry.expand stepfamily { mode := .child } ()).1.outcome =
        .ok (withMerged registry.hierarchy stepfamily stepfamilyGathered.merge)) ∧
      (registry.hierarchy.node (.hit 1) childOfTwo ∈ stepfamilyGathered.merge.map Placed.node ↔
        ¬ ∃ p, stepfamilyGathered.Displaces [registry.hierarchy.node (.hit 0) secondParent]
          (registry.hierarchy.node (.hit 1) childOfTwo) p) := by
  have hpage : reconcile (registry.hierarchy.page stepfamily.rows) =
      [registry.hierarchy.node (.hit 0) secondParent] ++
        registry.hierarchy.node (.hit 1) childOfTwo :: [] := pageOf_stepfamily
  have hkeeps := expand_keeps_hit_iff registry stepfamily { mode := .child } () gather_stepfamily
    hpage (by decide) (by decide)
  exact ⟨hkeeps.2.1, hkeeps.2.2.1⟩

/-- The child is on the page, and is replaced by its marked copy. -/
theorem registry_displaces_hit :
    (∀ ex ∈ registry.exchanges stepfamily { mode := .child } (), ∃ reply, ex.answer = .ok reply) ∧
      ∃ pre n post, reconcile (registry.hierarchy.page stepfamily.rows) = pre ++ n :: post ∧
        n.row = childOfTwo ∧ n.id ≠ "" ∧ (∀ m ∈ pre, m.key ≠ n.key) ∧
        ∃ after, (registry.expand stepfamily { mode := .child } ()).1.outcome = .ok after ∧
          after.rows = [secondParent, registry.hierarchy.markExpanded childOfTwo] ∧
          childOfTwo ∉ after.rows := by
  have hbusy : ¬ registry.Idle stepfamily { mode := .child } := by
    rintro (h | h | h)
    · cases h
    · cases h
    · exact absurd h (by decide)
  have hrows : (withMerged registry.hierarchy stepfamily stepfamilyGathered.merge).rows =
      [secondParent, registry.hierarchy.markExpanded childOfTwo] := rfl
  refine ⟨fun ex hex => ?_, [registry.hierarchy.node (.hit 0) secondParent],
    registry.hierarchy.node (.hit 1) childOfTwo, [], pageOf_stepfamily, rfl, by decide,
    by decide, _, registry.expand_of_gather hbusy gather_stepfamily, hrows, ?_⟩
  · obtain ⟨_, hs⟩ := registry.genuine_of_mem_exchanges hex
    exact ⟨_, hs.symm⟩
  · rw [hrows]
    simp [childOfTwo, secondParent, Hierarchy.markExpanded, Named.set, registry]

end Engine

end CriteriaSearch
