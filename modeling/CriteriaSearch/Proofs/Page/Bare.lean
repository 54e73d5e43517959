import CriteriaSearch.Proofs.Page.Completion
import CriteriaSearch.Proofs.Page.Relatives
import CriteriaSearch.Proofs.Search.Pool

/-!
# Rows without an id

A row without an id is in nobody's way as long as what it stands for comes with other rows anyway: a
parent that it names has had its turn, and behind it stands no root that it could take for a child
of its own. Then an expansion fetches and places what it does without such rows.
-/

namespace CriteriaSearch

/-- A row of a page without an id. -/
def Node.bare (n : Node) : Bool := n.origin != .fetched && n.id == ""

/-- A node that does not tell where on the page it was. -/
def Node.unnumbered (n : Node) : Node :=
  match n.origin with
  | .hit _ => { n with origin := .hit 0 }
  | .fetched => n

namespace Node

@[simp] theorem row_unnumbered (n : Node) : n.unnumbered.row = n.row := by
  unfold unnumbered
  cases n.origin <;> rfl

@[simp] theorem id_unnumbered (n : Node) : n.unnumbered.id = n.id := by
  unfold unnumbered
  cases n.origin <;> rfl

@[simp] theorem parent_unnumbered (n : Node) : n.unnumbered.parent = n.parent := by
  unfold unnumbered
  cases n.origin <;> rfl

@[simp] theorem isParent_unnumbered (n : Node) : n.unnumbered.isParent = n.isParent := by
  unfold unnumbered
  cases n.origin <;> rfl

@[simp] theorem key_unnumbered (n : Node) : n.unnumbered.key = n.key := by
  simp [key]

theorem not_bare_of_id {n : Node} (h : n.id ≠ "") : n.bare = false := by
  simp [bare, h]

end Node

namespace Placed

/-- What is placed apart from rows of the page without an id. -/
def kept (placed : List Placed) : List Placed :=
  (placed.filter fun p => !p.node.bare).map fun p => ⟨p.node.unnumbered, p.note⟩

theorem kept_append (placed placed' : List Placed) :
    kept (placed ++ placed') = kept placed ++ kept placed' := by
  simp [kept]

theorem kept_single {n : Node} (hn : n.bare = false) (note : Option MergeNote) :
    kept [⟨n, note⟩] = [⟨n.unnumbered, note⟩] := by
  simp [kept, hn]

theorem kept_bare {n : Node} (hn : n.bare = true) (note : Option MergeNote) :
    kept [⟨n, note⟩] = [] := by
  simp [kept, hn]

/-- Only rows with an id keep others away. -/
theorem blocks_kept (placed : List Placed) (n : Node) :
    blocks (kept placed) n.unnumbered = blocks placed n := by
  rw [Bool.eq_iff_iff, blocks_iff, blocks_iff, Node.id_unnumbered, Node.key_unnumbered]
  refine and_congr_right fun hid => ⟨?_, ?_⟩
  · rintro ⟨p, hp, hkey⟩
    obtain ⟨q, hq, rfl⟩ := List.mem_map.mp hp
    exact ⟨q, List.mem_of_mem_filter hq, (Node.key_unnumbered q.node).symm.trans hkey⟩
  · rintro ⟨p, hp, hkey⟩
    have hp' : p.node.bare = false := Node.not_bare_of_id (Node.id_eq_of_key hkey ▸ hid)
    have hmem : p ∈ placed.filter fun p => !p.node.bare :=
      List.mem_filter.mpr ⟨hp, by rw [hp', Bool.not_false]⟩
    exact ⟨_, List.mem_map_of_mem hmem, (Node.key_unnumbered p.node).trans hkey⟩

theorem kept_add {n : Node} (hn : n.bare = false) (placed : List Placed) (note : Option MergeNote) :
    kept (add placed n note) = add (kept placed) n.unnumbered note := by
  by_cases hblocks : blocks placed n = true
  · rw [add_of_blocks hblocks, add_of_blocks (by rwa [blocks_kept])]
  · rw [add_of_not_blocks hblocks, add_of_not_blocks (by rwa [blocks_kept]), kept_append,
      kept_single hn]

theorem kept_foldl_add {α : Type} (node : α → Node) (note : α → Option MergeNote) {xs : List α}
    (hxs : ∀ a ∈ xs, (node a).bare = false) (placed : List Placed) :
    kept (xs.foldl (fun placed a => add placed (node a) (note a)) placed) =
      xs.foldl (fun placed a => add placed (node a).unnumbered (note a)) (kept placed) := by
  induction xs generalizing placed with
  | nil => rfl
  | cons a xs ih =>
      rw [List.foldl_cons, List.foldl_cons, ih fun b hb => hxs b (List.mem_cons_of_mem a hb),
        kept_add (hxs a List.mem_cons_self)]

theorem foldl_add_of_blocks {α : Type} {node : α → Node} (note : α → Option MergeNote)
    {xs : List α} {placed : List Placed} (hxs : ∀ a ∈ xs, blocks placed (node a) = true) :
    xs.foldl (fun placed a => add placed (node a) (note a)) placed = placed := by
  induction xs with
  | nil => rfl
  | cons a xs ih =>
      rw [List.foldl_cons, add_of_blocks (hxs a List.mem_cons_self)]
      exact ih fun b hb => hxs b (List.mem_cons_of_mem a hb)

end Placed

/-! ### Merging -/

/-- Rows without an id stand where they change nothing: a parent that one of them names is a row
with an id before it, or is named by one, and behind one that is flagged as a parent is no root. -/
structure Unobtrusive (e : Expansion) (page : List Node) : Prop where
  parents : e.includesParents = true → ∀ pre n post, page = pre ++ n :: post → n.id = "" →
    n.parent ≠ "" → ∃ m ∈ pre, m.id ≠ "" ∧ (m.id = n.parent ∨ m.parent = n.parent)
  children : e.includesChildren = true → ∀ pre n post, page = pre ++ n :: post → n.id = "" →
    n.isParent = true → ∀ m ∈ post, m.id ≠ "" → m.parent ≠ ""

theorem Unobtrusive.of_named {e : Expansion} {page : List Node} (hnamed : ∀ n ∈ page, n.id ≠ "") :
    Unobtrusive e page := by
  constructor
  · intro _ pre n post hsplit hid
    exact absurd hid (hnamed n (hsplit ▸ List.mem_append_right pre List.mem_cons_self))
  · intro _ pre n post hsplit hid
    exact absurd hid (hnamed n (hsplit ▸ List.mem_append_right pre List.mem_cons_self))

namespace Family

variable {f : Family}

/-- A family without the rows of the page that have no id. -/
def stripped (f : Family) : Family :=
  { f with page := (f.page.filter (·.id != "")).map Node.unnumbered }

theorem pageChildren_stripped (parent : Node) :
    f.stripped.pageChildren parent.unnumbered = (f.pageChildren parent).map Node.unnumbered := by
  rw [pageChildren, stripped, List.filter_map, List.filter_filter, pageChildren]
  refine congrArg (List.map Node.unnumbered) (List.filter_congr fun c _ => ?_)
  by_cases hc : c.id = "" <;> simp [hc]

theorem fetchedChildren_stripped (parent : Node) :
    f.stripped.fetchedChildren parent.unnumbered = f.fetchedChildren parent := by
  simp [fetchedChildren, stripped]

theorem kept_addChildren (placed : List Placed) (parent : Node) :
    Placed.kept (f.addChildren placed parent) =
      f.stripped.addChildren (Placed.kept placed) parent.unnumbered := by
  have hpage : ∀ c ∈ f.pageChildren parent, c.bare = false :=
    fun c hc => Node.not_bare_of_id (mem_pageChildren.mp hc).2.1
  unfold addChildren
  rw [pageChildren_stripped, fetchedChildren_stripped, List.foldl_map, Node.id_unnumbered]
  dsimp only
  rw [Placed.kept_foldl_add f.hierarchy.expanded
    (fun c => some (.childPlaced parent.id c.id)) (fun c _ => rfl)]
  rw [Placed.kept_foldl_add (fun c => c) (fun _ => none) hpage]
  rfl

theorem needsChildren_stripped (n : Node) :
    f.stripped.needsChildren n.unnumbered = f.needsChildren n := by
  simp [needsChildren, stripped]

theorem parentOf?_stripped (n : Node) :
    f.stripped.parentOf? n.unnumbered = (f.parentOf? n).map Node.unnumbered := by
  by_cases hparent : n.parent = ""
  · simp [parentOf?, hparent]
  · have hfind : f.stripped.page.find? (·.id == n.parent) =
        (f.page.find? (·.id == n.parent)).map Node.unnumbered := by
      rw [stripped, List.find?_map, List.find?_filter]
      refine congrArg (Option.map Node.unnumbered) (congrArg (f.page.find? ·) (funext fun m => ?_))
      by_cases hm : m.id = n.parent <;> simp [hm, hparent]
    unfold parentOf?
    rw [Node.parent_unnumbered, hfind, show f.stripped.expansion = f.expansion from rfl,
      show f.stripped.parents = f.parents from rfl,
      show f.stripped.hierarchy = f.hierarchy from rfl]
    by_cases hon : (f.expansion.includesParents && n.parent != "") = true
    · rw [if_pos hon, if_pos hon]
      cases f.page.find? (·.id == n.parent) with
      | some p => rfl
      | none => cases f.parents.find? (·.id == n.parent) <;> rfl
    · rw [if_neg hon, if_neg hon]
      rfl

theorem not_bare_of_parentOf? {n p : Node} (h : f.parentOf? n = some p) : p.bare = false := by
  obtain ⟨hparent, hpage | ⟨-, q, hq, rfl⟩⟩ := parentOf?_eq_some h
  · have hid : p.id = n.parent := by simpa using List.find?_some hpage
    exact Node.not_bare_of_id (hid ▸ hparent)
  · rfl

theorem kept_addParent (placed : List Placed) (n : Node) :
    Placed.kept (f.addParent placed n) =
      f.stripped.addParent (Placed.kept placed) n.unnumbered := by
  unfold addParent
  rw [parentOf?_stripped]
  cases hp : f.parentOf? n with
  | none => rfl
  | some p =>
      dsimp only [Option.map_some]
      rw [Placed.blocks_kept, needsChildren_stripped]
      split
      · rfl
      · have hadd := Placed.kept_single (not_bare_of_parentOf? hp)
          (some (.parentPlaced n.parent p.id))
        split
        · rw [kept_addChildren, Placed.kept_append, hadd]
          simp
        · rw [Placed.kept_append, hadd]
          simp

theorem addRow_eq (placed : List Placed) (n : Node) : f.addRow placed n =
    if f.needsChildren n then f.addChildren (Placed.add (f.addParent placed n) n) n
    else Placed.add (f.addParent placed n) n := rfl

/-- A row with an id is placed as it is without the others. -/
theorem kept_addRow (placed : List Placed) {n : Node} (hn : n.id ≠ "") :
    Placed.kept (f.addRow placed n) = f.stripped.addRow (Placed.kept placed) n.unnumbered := by
  have hadd : Placed.kept (Placed.add (f.addParent placed n) n) =
      Placed.add (f.stripped.addParent (Placed.kept placed) n.unnumbered) n.unnumbered := by
    rw [Placed.kept_add (Node.not_bare_of_id hn), kept_addParent]
  rw [addRow_eq, addRow_eq, needsChildren_stripped]
  split
  · rw [kept_addChildren, hadd]
  · rw [hadd]

/-! ### The turn of a row without an id -/

theorem includesParents_of_parentOf? {n p : Node} (hp : f.parentOf? n = some p) :
    f.expansion.includesParents = true := by
  unfold parentOf? at hp
  split at hp
  · rename_i hcond
    exact (Bool.and_eq_true_iff.mp hcond).1
  · cases hp

section Turn

variable {pre post : List Node} {n : Node} (hpage : f.page = pre ++ n :: post)

include hpage in
/-- Of the rows of the page with an id the first comes no later than any other. -/
theorem find?_page_of_mem {id : String} {m : Node} (hm : m ∈ pre) (hmid : m.id = id) :
    ∃ k ∈ pre, f.page.find? (·.id == id) = some k := by
  obtain ⟨k, hk⟩ : ∃ k, pre.find? (·.id == id) = some k := by
    rw [← Option.isSome_iff_exists, List.find?_isSome]
    exact ⟨m, hm, by simpa using hmid⟩
  refine ⟨k, List.mem_of_find?_eq_some hk, ?_⟩
  rw [hpage, List.find?_append, hk, Option.some_or]

include hpage in
/-- A parent whose id a row before has is one of the rows before. -/
theorem mem_of_parentOf? {m p : Node} (hm : m ∈ pre) (hmid : m.id = n.parent)
    (hp : f.parentOf? n = some p) : p ∈ pre ∧ p.id ≠ "" := by
  obtain ⟨k, hk, hfirst⟩ := find?_page_of_mem hpage hm hmid
  obtain ⟨hparent, hfind | ⟨hnone, -⟩⟩ := parentOf?_eq_some hp
  · obtain rfl := Option.some.inj (hfind.symm.trans hfirst)
    have hpid : p.id = n.parent := by simpa using List.find?_some hfind
    exact ⟨hk, hpid ▸ hparent⟩
  · rw [hfirst] at hnone
    cases hnone

variable (hinert : Unobtrusive f.expansion f.page) (hid : n.id = "")

include hpage hinert hid

/-- The parent that it names is there already. -/
theorem addParent_of_bare
    (hparents : ∀ q ∈ f.parents, q.id ≠ "" → (f.hierarchy.expanded q).id ≠ "") :
    f.addParent (pre.foldl f.addRow []) n = pre.foldl f.addRow [] := by
  have hpre : pre ⊆ f.page := fun m hm => hpage ▸ List.mem_append_left _ hm
  refine (f.addParent_cases _ n).resolve_right ?_
  rintro ⟨p, hp, hblocks, -⟩
  have hon := includesParents_of_parentOf? hp
  obtain ⟨hparent, hcases⟩ := parentOf?_eq_some hp
  obtain ⟨m, hm, -, hnames | hnames⟩ := hinert.parents hon pre n post hpage hid hparent
  · obtain ⟨hmem, hpid⟩ := mem_of_parentOf? hpage hm hnames hp
    exact hblocks (Placed.blocks_iff.mpr ⟨hpid, exists_key_foldl_addRow hpre hmem []⟩)
  · have hpid : p.id ≠ "" := by
      rcases hcases with hfind | ⟨-, q, hq, rfl⟩
      · have heq : p.id = n.parent := by simpa using List.find?_some hfind
        exact heq ▸ hparent
      · have heq : q.id = n.parent := by simpa using List.find?_some hq
        exact hparents q (List.mem_of_find?_eq_some hq) (heq ▸ hparent)
    have hsame : f.parentOf? m = some p := by
      rw [← hp]
      unfold parentOf?
      rw [hnames]
    exact hblocks (Placed.blocks_iff.mpr
      ⟨hpid, exists_key_foldl_of_parentOf? hpre hm hsame []⟩)

/-- The roots that it could take for its children are there already. -/
theorem addChildren_of_bare (hneeds : f.needsChildren n = true)
    (hfetched : f.children.get? "" = none) {placed : List Placed}
    (hplaced : pre.foldl f.addRow [] ⊆ placed) :
    f.addChildren placed n = placed := by
  have hpre : pre ⊆ f.page := fun m hm => hpage ▸ List.mem_append_left _ hm
  obtain ⟨hon, hflag⟩ := Bool.and_eq_true_iff.mp hneeds
  have hblocks : ∀ c ∈ f.pageChildren n, Placed.blocks placed c = true := by
    intro c hc
    obtain ⟨hmem, hcid, -, hparent⟩ := mem_pageChildren.mp hc
    rw [hpage] at hmem
    have hcpre : c ∈ pre := by
      rcases List.mem_append.mp hmem with hcpre | hrest
      · exact hcpre
      · rcases List.mem_cons.mp hrest with rfl | hpost
        · exact absurd hid hcid
        · have hne := hinert.children hon pre n post hpage hid hflag c hpost hcid
          exact absurd (hparent.trans hid) hne
    obtain ⟨q, hq, hkey⟩ := exists_key_foldl_addRow hpre hcpre []
    exact Placed.blocks_iff.mpr ⟨hcid, q, hplaced hq, hkey⟩
  have hnone : f.fetchedChildren n = [] := by
    rw [fetchedChildren, hid, hfetched]
    rfl
  unfold addChildren
  rw [hnone, List.foldl_nil]
  exact Placed.foldl_add_of_blocks (fun _ => none) hblocks

theorem kept_addRow_of_bare (horigin : n.origin ≠ .fetched)
    (hparents : ∀ q ∈ f.parents, q.id ≠ "" → (f.hierarchy.expanded q).id ≠ "")
    (hfetched : f.children.get? "" = none) :
    Placed.kept (f.addRow (pre.foldl f.addRow []) n) = Placed.kept (pre.foldl f.addRow []) := by
  have hbare : n.bare = true := by simp [Node.bare, hid, horigin]
  have hadd : Placed.add (f.addParent (pre.foldl f.addRow []) n) n =
      pre.foldl f.addRow [] ++ [⟨n, none⟩] := by
    rw [addParent_of_bare hpage hinert hid hparents]
    exact Placed.add_of_not_blocks (fun h => (Placed.blocks_iff.mp h).1 hid) none
  have hrow : f.addRow (pre.foldl f.addRow []) n = pre.foldl f.addRow [] ++ [⟨n, none⟩] := by
    rw [addRow_eq, hadd]
    split
    · rename_i hneeds
      exact addChildren_of_bare hpage hinert hid hneeds hfetched
        fun q hq => List.mem_append_left _ hq
    · rfl
  rw [hrow, Placed.kept_append, Placed.kept_bare hbare, List.append_nil]

end Turn

/-- Parents that are placed before rows without an id are rows of the page, or are placed before
other rows as well. -/
theorem forall_parentOf?_stripped {P : Row → Prop} (hinert : Unobtrusive f.expansion f.page)
    (hpage : ∀ n ∈ f.page, P n.row) :
    (∀ n ∈ f.page, ∀ p, f.parentOf? n = some p → P p.row) ↔
      ∀ n ∈ f.stripped.page, ∀ p, f.stripped.parentOf? n = some p → P p.row := by
  constructor
  · intro h n hn p hp
    obtain ⟨m, hm, rfl⟩ := List.mem_map.mp hn
    rw [parentOf?_stripped] at hp
    obtain ⟨q, hq, rfl⟩ := Option.map_eq_some_iff.mp hp
    rw [q.row_unnumbered]
    exact h m (List.mem_of_mem_filter hm) q hq
  · intro h n hn p hp
    have hkept : ∀ m ∈ f.page, m.id ≠ "" → f.parentOf? m = some p → P p.row := by
      intro m hm hid hmp
      rw [← p.row_unnumbered]
      refine h m.unnumbered
        (List.mem_map_of_mem (List.mem_filter.mpr ⟨hm, by simpa using hid⟩)) _ ?_
      rw [parentOf?_stripped, hmp]
      rfl
    by_cases hid : n.id = ""
    · obtain ⟨hparent, hfind | ⟨hnone, -⟩⟩ := parentOf?_eq_some hp
      · exact hpage p (List.mem_of_find?_eq_some hfind)
      · obtain ⟨pre, post, hsplit⟩ := List.append_of_mem hn
        obtain ⟨m, hm, hmid, hnames⟩ := hinert.parents (includesParents_of_parentOf? hp) pre n post
          hsplit hid hparent
        have hmem : m ∈ f.page := hsplit ▸ List.mem_append_left _ hm
        rcases hnames with hnames | hnames
        · exact absurd (beq_iff_eq.mpr hnames) (List.find?_eq_none.mp hnone m hmem)
        · refine hkept m hmem hmid ?_
          rw [← hp, parentOf?, parentOf?, hnames]
    · exact hkept n hn hid hp

/-- Whether the keys can be read that a merge needs does not depend on rows without an id. -/
theorem requireKeys_stripped (hinert : Unobtrusive f.expansion f.page)
    (hpage : ∀ n ∈ f.page, f.hierarchy.IsLegible n.row) :
    f.requireKeys = f.stripped.requireKeys := by
  unfold requireKeys
  refine congrArg _ (funext fun _ => Hierarchy.texts_bind_congr ?_ _)
  rw [forall_placed_parents, forall_placed_parents]
  exact forall_parentOf?_stripped (P := f.hierarchy.IsLegible) hinert hpage

/-- A merge places what it places without the rows that have no id. -/
theorem kept_merge (hinert : Unobtrusive f.expansion f.page)
    (horigin : ∀ n ∈ f.page, n.origin ≠ .fetched)
    (hparents : ∀ q ∈ f.parents, q.id ≠ "" → (f.hierarchy.expanded q).id ≠ "")
    (hfetched : f.children.get? "" = none) : Placed.kept f.merge = f.stripped.merge := by
  refine turns_induction (P := fun pre placed => Placed.kept placed =
    ((pre.filter (·.id != "")).map Node.unnumbered).foldl f.stripped.addRow []) rfl
    (fun pre n post hpage h => ?_) (List.append_nil f.page).symm
  have hn : n ∈ f.page := hpage ▸ List.mem_append_right pre List.mem_cons_self
  rw [List.filter_append, List.map_append, List.foldl_append, ← h]
  by_cases hid : n.id = ""
  · rw [List.filter_cons_of_neg (by simpa using hid)]
    exact kept_addRow_of_bare hpage hinert hid (horigin n hn) hparents hfetched
  · rw [List.filter_cons_of_pos (by simpa using hid)]
    exact kept_addRow _ hid

end Family

end CriteriaSearch
