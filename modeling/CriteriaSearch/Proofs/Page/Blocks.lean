import CriteriaSearch.Proofs.Page.Following

/-!
# Children behind their parents

On a page of two levels a merge places a parent together with all its children, or a row that is no
parent. Hence the children of a parent stand in one block behind it and nowhere else: those of the
page in its order, then the fetched ones.
-/

namespace CriteriaSearch

namespace Placed

theorem blocks_concat {n m : Node} (hid : m.id ≠ "") (placed : List Placed)
    (note : Option MergeNote) :
    blocks (placed ++ [⟨n, note⟩]) m = (blocks placed m || n.key == m.key) := by
  have hne : (m.id != "") = true := bne_iff_ne.mpr hid
  simp [blocks, hne]

/-- Of the rows that are on offer those are placed that are not there yet, each key once. -/
theorem map_node_foldl_add {items : List Placed} (hids : ∀ q ∈ items, q.node.id ≠ "")
    (placed : List Placed) :
    (items.foldl (fun placed q => add placed q.node q.note) placed).map Placed.node =
      placed.map Placed.node ++
        Supplement.distinct ((items.map Placed.node).filter fun n => !blocks placed n) := by
  induction items generalizing placed with
  | nil => simp [Supplement.distinct]
  | cons q items ih =>
      obtain ⟨-, hrest⟩ := List.forall_mem_cons.mp hids
      rw [List.foldl_cons, ih hrest, List.map_cons]
      by_cases hblocks : blocks placed q.node = true
      · rw [add_of_blocks hblocks, List.filter_cons_of_neg (by simp [hblocks])]
      · have hfilter : (items.map Placed.node).filter
              (fun n => !blocks (placed ++ [⟨q.node, q.note⟩]) n) =
            ((items.map Placed.node).filter fun n => !blocks placed n).filter
              fun n => (n.key == q.node.key) = false := by
          rw [List.filter_filter]
          refine List.filter_congr fun n hn => ?_
          obtain ⟨r, hr, rfl⟩ := List.mem_map.mp hn
          rw [blocks_concat (hrest r hr), BEq.comm]
          cases blocks placed r.node <;> cases r.node.key == q.node.key <;> rfl
        rw [add_of_not_blocks hblocks, hfilter, List.filter_cons_of_pos (by simp [hblocks]),
          Supplement.distinct, Supplement.distinct, List.eraseDupsBy_cons]
        simp

end Placed

namespace Family

/-- The children of a parent as they stand behind it. -/
def brood (f : Family) (p : Node) : List Node :=
  Supplement.distinct (f.page.filter (·.parent == p.id) ++
    (f.fetchedChildren p).map f.hierarchy.expanded)

/-- On a page of two levels with distinct ids only roots are flagged as parents. What is fetched are
roots whose ids are not on the page, and children that are not flagged. -/
structure Tiered (f : Family) : Prop extends f.Lineal where
  withChildren : f.expansion.includesChildren = true
  ids_nodup : (f.page.map Node.id).Nodup
  root_of_flag : ∀ n ∈ f.page, n.isParent = true → n.parent = ""
  parent_root : ∀ q ∈ f.parents, (f.hierarchy.expanded q).parent = ""
  parent_id : ∀ q ∈ f.parents, q.id ≠ "" ∧ ∀ n ∈ f.page, n.id ≠ q.id
  child : ∀ parent, ∀ c ∈ f.fetchedChildren parent, (f.hierarchy.expanded c).id ≠ "" ∧
    (f.hierarchy.expanded c).parent = parent.id ∧ (f.hierarchy.expanded c).isParent = false

variable {f : Family}

/-! ### One block -/

def offered (f : Family) (parent : Node) : List Placed :=
  (f.pageChildren parent).map (⟨·, none⟩) ++
    (f.fetchedChildren parent).map fun c =>
      ⟨f.hierarchy.expanded c, some (.childPlaced parent.id c.id)⟩

theorem addChildren_eq_foldl (placed : List Placed) (parent : Node) :
    f.addChildren placed parent =
      (f.offered parent).foldl (fun placed q => Placed.add placed q.node q.note) placed := by
  rw [offered, List.foldl_append, List.foldl_map, List.foldl_map]
  rfl

theorem exists_key_brood {p c : Node} (hc : c ∈ f.page) (hparent : c.parent = p.id) :
    ∃ m ∈ f.brood p, m.key = c.key := by
  have hmem : c ∈ f.page.filter (·.parent == p.id) ++
      (f.fetchedChildren p).map f.hierarchy.expanded :=
    List.mem_append_left _ (List.mem_filter.mpr ⟨hc, by simpa using hparent⟩)
  obtain ⟨m, hm, hkey⟩ := exists_mem_eraseDupsBy (r := fun a b : Node => a.key == b.key)
    (fun a => by simp) hmem
  exact ⟨m, hm, (beq_iff_eq.mp hkey).symm⟩

namespace Tiered

variable (h : f.Tiered)

include h

theorem mem_brood {p c : Node} (hp : p.id ≠ "") (hc : c ∈ f.brood p) :
    c.id ≠ "" ∧ c.parent = p.id ∧ c.isParent = false := by
  have hmem := (eraseDupsBy_sublist _ _).subset hc
  rcases List.mem_append.mp hmem with hpage | hfetched
  · obtain ⟨hpage, hparent⟩ := List.mem_filter.mp hpage
    have hparent : c.parent = p.id := by simpa using hparent
    refine ⟨h.id_ne c hpage, hparent, ?_⟩
    by_contra hflag
    have hroot := h.root_of_flag c hpage (by simpa using hflag)
    exact hp (hparent.symm.trans hroot)
  · obtain ⟨q, hq, rfl⟩ := List.mem_map.mp hfetched
    exact h.child p q hq

/-- The children of a parent of which none has been placed. -/
theorem map_node_addChildren {placed : List Placed} {p : Node}
    (hfresh : ∀ m ∈ placed.map Placed.node, m.parent ≠ p.id) :
    (f.addChildren placed p).map Placed.node = placed.map Placed.node ++ f.brood p := by
  have hnodes : (f.offered p).map Placed.node = f.page.filter (·.parent == p.id) ++
      (f.fetchedChildren p).map f.hierarchy.expanded := by
    rw [offered, h.pageChildren_eq, List.map_append, List.map_map, List.map_map]
    simp [Function.comp_def]
  have hoffered : ∀ n ∈ (f.offered p).map Placed.node, n.id ≠ "" ∧ n.parent = p.id := by
    intro n hn
    rw [hnodes] at hn
    rcases List.mem_append.mp hn with hn | hn
    · obtain ⟨hpage, hparent⟩ := List.mem_filter.mp hn
      exact ⟨h.id_ne n hpage, by simpa using hparent⟩
    · obtain ⟨c, hc, rfl⟩ := List.mem_map.mp hn
      obtain ⟨hid, hparent, -⟩ := h.child p c hc
      exact ⟨hid, hparent⟩
  have hfree : ∀ n ∈ (f.offered p).map Placed.node, (!Placed.blocks placed n) = true := by
    intro n hn
    rw [Bool.not_eq_true', ← Bool.not_eq_true]
    intro hblocks
    obtain ⟨-, q, hq, hkey⟩ := Placed.blocks_iff.mp hblocks
    exact hfresh q.node (List.mem_map_of_mem hq)
      ((Node.parent_eq_of_key hkey).trans (hoffered n hn).2)
  rw [addChildren_eq_foldl, Placed.map_node_foldl_add fun q hq =>
    (hoffered q.node (List.mem_map_of_mem hq)).1, List.filter_eq_self.mpr hfree, hnodes]
  rfl

end Tiered

/-! ### All blocks -/

/-- A node comes from the turn of a row, from the fetched parents, or from the children of a parent
that is there. -/
inductive Source (f : Family) (pre nodes : List Node) (m : Node) : Prop
  | turned (mem : m ∈ pre)
  | parent {q : Node} (mem : q ∈ f.parents) (eq : m = f.hierarchy.expanded q)
  | child {p : Node} (mem : p ∈ nodes) (flag : p.isParent = true) (under : m.parent = p.id)
      (unflagged : m.isParent = false)

/-- Behind every parent stand its children, and nowhere else. -/
structure Grouped (f : Family) (pre nodes : List Node) : Prop where
  source : ∀ m ∈ nodes, f.Source pre nodes m
  block : ∀ front p back, nodes = front ++ p :: back → p.isParent = true →
    ∃ rest, back = f.brood p ++ rest ∧ ∀ m ∈ front ++ rest, m.parent ≠ p.id

variable {pre post nodes : List Node} {n p : Node}

theorem Source.mono {pre' nodes' : List Node} {m : Node} (h : f.Source pre nodes m)
    (hpre : pre ⊆ pre') (hnodes : nodes ⊆ nodes') : f.Source pre' nodes' m := by
  cases h with
  | turned mem => exact .turned (hpre mem)
  | parent mem eq => exact .parent mem eq
  | child mem flag under unflagged => exact .child (hnodes mem) flag under unflagged

theorem Grouped.mono {pre' : List Node} (h : f.Grouped pre nodes) (hpre : pre ⊆ pre') :
    f.Grouped pre' nodes :=
  ⟨fun m hm => (h.source m hm).mono hpre (List.Subset.refl _), h.block⟩

/-- Further rows keep the blocks if none of them names a parent that is there; then only the blocks
that are among them are new. -/
theorem Grouped.append (h : f.Grouped pre nodes) {more : List Node}
    (hsource : ∀ m ∈ more, f.Source pre (nodes ++ more) m)
    (hother : ∀ q ∈ nodes, q.isParent = true → ∀ m ∈ more, m.parent ≠ q.id)
    (hblock : ∀ front p back, more = front ++ p :: back → p.isParent = true →
      ∃ rest, back = f.brood p ++ rest ∧ ∀ m ∈ nodes ++ front ++ rest, m.parent ≠ p.id) :
    f.Grouped pre (nodes ++ more) := by
  refine ⟨fun m hm => ?_, fun front q back hsplit hflag => ?_⟩
  · rcases List.mem_append.mp hm with hm | hm
    · exact (h.source m hm).mono (List.Subset.refl _) (List.subset_append_left _ _)
    · exact hsource m hm
  · -- The parent is one of the further rows, or one of those before.
    rcases List.append_eq_append_iff.mp hsplit with ⟨middle, rfl, hmore⟩ | ⟨middle, hnodes, hback⟩
    · obtain ⟨rest, hback, hrest⟩ := hblock middle q back hmore hflag
      exact ⟨rest, hback, hrest⟩
    · cases middle with
      | nil =>
          rw [List.append_nil] at hnodes
          subst hnodes
          obtain ⟨rest, hback, hrest⟩ := hblock [] q back hback.symm hflag
          exact ⟨rest, hback, by simpa using hrest⟩
      | cons r middle =>
          rw [List.cons_append] at hback
          obtain ⟨rfl, rfl⟩ := List.cons.inj hback
          obtain ⟨rest, rfl, hrest⟩ := h.block front q middle hnodes hflag
          refine ⟨rest ++ more, by rw [List.append_assoc], fun m hm => ?_⟩
          rw [← List.append_assoc, List.mem_append] at hm
          rcases hm with hm | hm
          · exact hrest m hm
          · exact hother q (hnodes ▸ by simp) hflag m hm

theorem Grouped.single (h : f.Grouped pre nodes) (hsource : f.Source pre (nodes ++ [n]) n)
    (hflag : n.isParent = false) (hother : ∀ q ∈ nodes, q.isParent = true → q.id ≠ n.parent) :
    f.Grouped pre (nodes ++ [n]) := by
  refine h.append (List.forall_mem_singleton.mpr hsource)
    (fun q hq hqflag => List.forall_mem_singleton.mpr (hother q hq hqflag).symm) ?_
  intro front q back hsplit hqflag
  have hq : q ∈ [n] := hsplit ▸ List.mem_append_right front List.mem_cons_self
  rw [List.mem_singleton.mp hq, hflag] at hqflag
  cases hqflag

theorem Grouped.group (h : f.Grouped pre nodes) (hf : f.Tiered)
    (hsource : f.Source pre (nodes ++ p :: f.brood p) p) (hid : p.id ≠ "")
    (hflag : p.isParent = true) (hroot : p.parent = "") (hfresh : ∀ m ∈ nodes, m.parent ≠ p.id)
    (hother : ∀ q ∈ nodes, q.isParent = true → q.id ≠ "" ∧ q.id ≠ p.id) :
    f.Grouped pre (nodes ++ p :: f.brood p) := by
  have hbrood : ∀ c ∈ f.brood p, c.parent = p.id ∧ c.isParent = false :=
    fun c hc => (hf.mem_brood hid hc).2
  refine h.append (List.forall_mem_cons.mpr ⟨hsource, fun c hc => ?_⟩) (fun q hq hqflag => ?_) ?_
  · exact .child (List.mem_append_right _ List.mem_cons_self) hflag (hbrood c hc).1 (hbrood c hc).2
  · obtain ⟨hne, hqp⟩ := hother q hq hqflag
    refine List.forall_mem_cons.mpr ⟨hroot ▸ hne.symm, fun c hc => ?_⟩
    rw [(hbrood c hc).1]
    exact hqp.symm
  · intro front q back hsplit hqflag
    cases front with
    | nil =>
        obtain ⟨rfl, rfl⟩ := List.cons.inj hsplit
        exact ⟨[], (List.append_nil _).symm, by simpa using hfresh⟩
    | cons r front =>
        have hq : q ∈ f.brood p := by
          rw [(List.cons.inj hsplit).2]
          exact List.mem_append_right front List.mem_cons_self
        rw [(hbrood q hq).2] at hqflag
        cases hqflag

/-- A root is placed with its children if it is a parent, and else alone. -/
theorem Grouped.place (h : f.Grouped pre nodes) (hf : f.Tiered) {placed : List Placed}
    (hplaced : placed.map Placed.node = nodes) (note : Option MergeNote)
    (hsource : p ∈ pre ∨ ∃ q ∈ f.parents, p = f.hierarchy.expanded q) (hid : p.id ≠ "")
    (hroot : p.parent = "") (hfresh : ∀ m ∈ nodes, m.parent ≠ p.id)
    (hother : ∀ q ∈ nodes, q.isParent = true → q.id ≠ "" ∧ q.id ≠ p.id) :
    f.Grouped pre ((if f.needsChildren p then f.addChildren (placed ++ [⟨p, note⟩]) p
      else placed ++ [⟨p, note⟩]).map Placed.node) := by
  have hfrom : ∀ nodes, f.Source pre nodes p := by
    intro nodes
    rcases hsource with hmem | ⟨q, hq, heq⟩
    · exact .turned hmem
    · exact .parent hq heq
  have hnodes : (placed ++ [(⟨p, note⟩ : Placed)]).map Placed.node = nodes ++ [p] := by
    rw [List.map_append, hplaced]
    rfl
  by_cases hflag : p.isParent = true
  · have hall : ∀ m ∈ (placed ++ [(⟨p, note⟩ : Placed)]).map Placed.node, m.parent ≠ p.id := by
      rw [hnodes]
      exact List.forall_mem_append.mpr ⟨hfresh, List.forall_mem_singleton.mpr (hroot ▸ hid.symm)⟩
    rw [if_pos (by simp [needsChildren, hf.withChildren, hflag]), hf.map_node_addChildren hall,
      hnodes, List.append_assoc]
    exact h.group hf (hfrom _) hid hflag hroot hfresh hother
  · have hflag : p.isParent = false := by simpa using hflag
    rw [if_neg (by simp [needsChildren, hflag]), hnodes]
    exact h.single (hfrom _) hflag fun q hq hqflag => hroot ▸ (hother q hq hqflag).1

/-! ### Turns -/

namespace Tiered

variable (hf : f.Tiered) (hpage : f.page = pre ++ n :: post)

include hf

/-- A parent that is there is a root, from the page or fetched. -/
theorem root_of_source (hpre : pre ⊆ f.page) (h : f.Source pre nodes p)
    (hflag : p.isParent = true) :
    p.parent = "" ∧ p.id ≠ "" ∧ (p ∈ pre ∨ ∀ m ∈ f.page, m.id ≠ p.id) := by
  cases h with
  | turned mem =>
      exact ⟨hf.root_of_flag p (hpre mem) hflag, hf.id_ne p (hpre mem), .inl mem⟩
  | parent mem eq =>
      obtain ⟨hid, habsent⟩ := hf.parent_id _ mem
      rw [← hf.id_expanded _ mem, ← eq] at hid habsent
      exact ⟨eq ▸ hf.parent_root _ mem, hid, .inr habsent⟩
  | child mem flag under unflagged =>
      rw [unflagged] at hflag
      cases hflag

include hpage

theorem id_ne_of_pre {m : Node} (hm : m ∈ pre) : m.id ≠ n.id := by
  have hnodup := hf.ids_nodup
  rw [hpage, List.map_append, List.nodup_append] at hnodup
  exact hnodup.2.2 _ (List.mem_map_of_mem hm) _ List.mem_cons_self

/-- Before the turn of a row there is no parent with its id. -/
theorem id_ne_of_flag (h : f.Grouped pre nodes) {q : Node} (hq : q ∈ nodes)
    (hflag : q.isParent = true) : q.id ≠ n.id := by
  have hn : n ∈ f.page := hpage ▸ List.mem_append_right pre List.mem_cons_self
  have hpre : pre ⊆ f.page := fun m hm => hpage ▸ List.mem_append_left _ hm
  rcases (hf.root_of_source hpre (h.source q hq) hflag).2.2 with hmem | habsent
  · exact hf.id_ne_of_pre hpage hmem
  · exact (habsent n hn).symm

/-- Before the turn of a row none of its children is there. -/
theorem parent_ne_of_mem (h : f.Grouped pre nodes) {m : Node} (hm : m ∈ nodes) :
    m.parent ≠ n.id := by
  have hn : n ∈ f.page := hpage ▸ List.mem_append_right pre List.mem_cons_self
  cases h.source m hm with
  | turned mem =>
      intro heq
      obtain ⟨front, back, rfl⟩ := List.append_of_mem mem
      have hsplit : f.page = front ++ m :: (back ++ n :: post) := by simpa using hpage
      obtain ⟨k, hk, hid⟩ := hf.parent_before front m _ hsplit (heq ▸ hf.id_ne n hn)
        ⟨n, hn, heq.symm⟩
      exact hf.id_ne_of_pre hpage (List.mem_append_left _ hk) (hid.trans heq)
  | parent mem eq =>
      rw [eq, hf.parent_root _ mem]
      exact (hf.id_ne n hn).symm
  | child mem flag under unflagged =>
      rw [under]
      exact hf.id_ne_of_flag hpage h mem flag

/-- The turn of a root. -/
theorem grouped_root (h : f.Grouped pre ((pre.foldl f.addRow []).map Placed.node))
    (hroot : n.parent = "") :
    f.Grouped (pre ++ [n]) ((f.addRow (pre.foldl f.addRow []) n).map Placed.node) := by
  have hn : n ∈ f.page := hpage ▸ List.mem_append_right pre List.mem_cons_self
  have hpre : pre ⊆ f.page := fun m hm => hpage ▸ List.mem_append_left _ hm
  have hparent : f.addParent (pre.foldl f.addRow []) n = pre.foldl f.addRow [] := by
    simp [addParent, parentOf?, hroot]
  have hfree : ¬ Placed.blocks (pre.foldl f.addRow []) n = true := by
    intro hblocks
    obtain ⟨-, q, hq, hkey⟩ := Placed.blocks_iff.mp hblocks
    have hqid := Node.id_eq_of_key hkey
    cases h.source q.node (List.mem_map_of_mem hq) with
    | turned mem => exact hf.id_ne_of_pre hpage mem hqid
    | parent mem eq =>
        rw [eq, hf.id_expanded _ mem] at hqid
        exact (hf.parent_id _ mem).2 n hn hqid.symm
    | child mem flag under unflagged =>
        have hne := (hf.root_of_source hpre (h.source _ mem) flag).2.1
        exact hne (under.symm.trans ((Node.parent_eq_of_key hkey).trans hroot))
  have hother : ∀ q ∈ (pre.foldl f.addRow []).map Placed.node, q.isParent = true →
      q.id ≠ "" ∧ q.id ≠ n.id := fun q hq hflag =>
    ⟨(hf.root_of_source hpre (h.source q hq) hflag).2.1, hf.id_ne_of_flag hpage h hq hflag⟩
  rw [addRow_eq, hparent, Placed.add_of_not_blocks hfree]
  exact (h.mono (List.subset_append_left pre [n])).place hf rfl none (.inl (by simp))
    (hf.id_ne n hn) hroot (fun m hm => hf.parent_ne_of_mem hpage h hm) hother

/-- A fetched parent that is not there yet shares its id with no parent that is. -/
theorem id_ne_of_not_blocks {placed : List Placed} (h : f.Grouped pre (placed.map Placed.node))
    {q : Node} (hq : q ∈ f.parents) (hfree : ¬ Placed.blocks placed (f.hierarchy.expanded q) = true)
    {m : Node} (hm : m ∈ placed.map Placed.node) (hflag : m.isParent = true) :
    m.id ≠ "" ∧ m.id ≠ (f.hierarchy.expanded q).id := by
  have hpre : pre ⊆ f.page := fun m hm => hpage ▸ List.mem_append_left _ hm
  obtain ⟨hroot, hid, -⟩ := hf.root_of_source hpre (h.source m hm) hflag
  refine ⟨hid, fun heq => ?_⟩
  cases h.source m hm with
  | turned mem =>
      exact (hf.parent_id q hq).2 m (hpre mem) (heq.trans (hf.id_expanded q hq))
  | parent mem eq =>
      obtain ⟨r, hr, rfl⟩ := List.mem_map.mp hm
      have hkey : r.node.key = (f.hierarchy.expanded q).key :=
        Prod.ext heq (hroot.trans (hf.parent_root q hq).symm)
      exact hfree (Placed.blocks_iff.mpr ⟨heq ▸ hid, r, hr, hkey⟩)
  | child mem flag under unflagged =>
      rw [unflagged] at hflag
      cases hflag

/-- Before a row that is no root its parent is placed, if it was fetched. -/
theorem grouped_addParent (h : f.Grouped pre ((pre.foldl f.addRow []).map Placed.node)) :
    f.Grouped pre ((f.addParent (pre.foldl f.addRow []) n).map Placed.node) := by
  have hpre : pre ⊆ f.page := fun m hm => hpage ▸ List.mem_append_left _ hm
  rcases f.addParent_cases (pre.foldl f.addRow []) n with hnone | ⟨p, hp, hblocks, hplace⟩
  · rwa [hnone]
  · rw [hplace]
    have horigin := hf.origin_of_parentOf? hpage hp hblocks
    obtain ⟨-, hfind | ⟨-, q, hfind, rfl⟩⟩ := parentOf?_eq_some hp
    · exact absurd horigin (hf.origin_ne p (List.mem_of_find?_eq_some hfind))
    · have hq := List.mem_of_find?_eq_some hfind
      have hqid : q.id = n.parent := by simpa using List.find?_some hfind
      have hid : (f.hierarchy.expanded q).id ≠ "" := by
        rw [hf.id_expanded q hq]
        exact (hf.parent_id q hq).1
      have hother : ∀ m ∈ (pre.foldl f.addRow []).map Placed.node, m.isParent = true →
          m.id ≠ "" ∧ m.id ≠ (f.hierarchy.expanded q).id :=
        fun m hm hflag => hf.id_ne_of_not_blocks hpage h hq hblocks hm hflag
      have hfresh : ∀ m ∈ (pre.foldl f.addRow []).map Placed.node,
          m.parent ≠ (f.hierarchy.expanded q).id := by
        intro m hm heq
        cases h.source m hm with
        | turned mem =>
            -- The parent was placed before the row that named it first.
            have hsame : f.parentOf? m = some (f.hierarchy.expanded q) := by
              rw [← hp, parentOf?, parentOf?, heq, hf.id_expanded q hq, hqid]
            exact hblocks (Placed.blocks_iff.mpr
              ⟨hid, exists_key_foldl_of_parentOf? hpre mem hsame []⟩)
        | parent mem eq =>
            rw [eq, hf.parent_root _ mem] at heq
            exact hid heq.symm
        | child mem flag under unflagged =>
            exact (hother _ mem flag).2 (under.symm.trans heq)
      exact h.place hf rfl _ (.inr ⟨q, hq, rfl⟩) hid (hf.parent_root q hq) hfresh hother

/-- The turn of a child. -/
theorem grouped_child (h : f.Grouped pre ((pre.foldl f.addRow []).map Placed.node))
    (hchild : n.parent ≠ "") :
    f.Grouped (pre ++ [n]) ((f.addRow (pre.foldl f.addRow []) n).map Placed.node) := by
  have hn : n ∈ f.page := hpage ▸ List.mem_append_right pre List.mem_cons_self
  have hflag : n.isParent = false := by
    by_contra hflag
    exact hchild (hf.root_of_flag n hn (by simpa using hflag))
  have hbefore := (hf.grouped_addParent hpage h).mono (List.subset_append_left pre [n])
  rw [addRow_eq, if_neg (by simp [needsChildren, hflag])]
  by_cases hblocks : Placed.blocks (f.addParent (pre.foldl f.addRow []) n) n = true
  · rwa [Placed.add_of_blocks hblocks]
  · rw [Placed.add_of_not_blocks hblocks, List.map_append]
    refine hbefore.single (.turned (by simp)) hflag fun q hq hqflag heq => hblocks ?_
    obtain ⟨front, back, hsplit⟩ := List.append_of_mem hq
    obtain ⟨rest, rfl, -⟩ := hbefore.block front q back hsplit hqflag
    obtain ⟨m, hm, hkey⟩ := exists_key_brood hn heq.symm
    have hmem : m ∈ (f.addParent (pre.foldl f.addRow []) n).map Placed.node := by
      rw [hsplit]
      exact List.mem_append_right front
        (List.mem_cons_of_mem q (List.mem_append_left rest hm))
    obtain ⟨r, hr, rfl⟩ := List.mem_map.mp hmem
    exact Placed.blocks_iff.mpr ⟨hf.id_ne n hn, r, hr, hkey⟩

end Tiered

theorem Tiered.grouped (hf : f.Tiered) (hpage : f.page = pre ++ post) :
    f.Grouped pre ((pre.foldl f.addRow []).map Placed.node) := by
  refine turns_induction (P := fun pre placed => f.Grouped pre (placed.map Placed.node))
    ⟨List.forall_mem_nil _, fun _ _ _ hsplit => absurd hsplit (by simp)⟩
    (fun pre n post hpage h => ?_) hpage
  by_cases hroot : n.parent = ""
  · exact hf.grouped_root hpage h hroot
  · exact hf.grouped_child hpage h hroot

/-- In a merge the rows that name a parent are the block behind it. -/
theorem Tiered.brood_merge (hf : f.Tiered) {front back : List Node}
    (hsplit : f.merge.map Placed.node = front ++ p :: back) (hflag : p.isParent = true) :
    f.brood p <+: back ∧ (f.merge.map Placed.node).filter (·.parent == p.id) = f.brood p := by
  have hgrouped := hf.grouped (List.append_nil f.page).symm
  have hp : p ∈ f.merge.map Placed.node := hsplit ▸ List.mem_append_right front List.mem_cons_self
  obtain ⟨rest, rfl, hrest⟩ := hgrouped.block front p back hsplit hflag
  obtain ⟨hroot, hid, -⟩ :=
    hf.root_of_source (List.Subset.refl _) (hgrouped.source p hp) hflag
  have hnone : ∀ nodes : List Node, (∀ m ∈ nodes, m.parent ≠ p.id) →
      nodes.filter (·.parent == p.id) = [] := by
    intro nodes hnodes
    exact List.filter_eq_nil_iff.mpr fun m hm => by simpa using hnodes m hm
  have hfront := hnone front fun m hm => hrest m (List.mem_append_left _ hm)
  have hbehind := hnone rest fun m hm => hrest m (List.mem_append_right _ hm)
  have hself := hnone [p] (List.forall_mem_singleton.mpr (hroot ▸ hid.symm))
  have hbrood : (f.brood p).filter (·.parent == p.id) = f.brood p :=
    List.filter_eq_self.mpr fun c hc => by simpa using (hf.mem_brood hid hc).2.1
  refine ⟨List.prefix_append _ _, ?_⟩
  rw [hsplit, List.append_cons]
  simp only [List.filter_append, hfront, hself, hbrood, hbehind, List.nil_append, List.append_nil]

end Family

end CriteriaSearch
