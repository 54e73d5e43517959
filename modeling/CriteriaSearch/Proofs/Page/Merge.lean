import CriteriaSearch.Page.Merge
import Mathlib.Data.List.Basic
import Mathlib.Data.List.Infix
import Mathlib.Data.List.Pairwise

/-!
# What a merge places

A merge is a sequence of single placements, each of a row of the page or of the marked copy of a
fetched row. A placement appends at most one row and never a second one with the same key, so what
holds of one placement is carried through a whole merge by induction on the sequence.
-/

namespace CriteriaSearch

theorem Node.id_eq_of_key {m n : Node} (h : m.key = n.key) : m.id = n.id := congrArg Prod.fst h

theorem Node.parent_eq_of_key {m n : Node} (h : m.key = n.key) : m.parent = n.parent :=
  congrArg Prod.snd h

namespace Placed

theorem blocks_iff {placed : List Placed} {n : Node} :
    blocks placed n = true ↔ n.id ≠ "" ∧ ∃ p ∈ placed, p.node.key = n.key := by
  simp [blocks]

theorem add_of_blocks {placed : List Placed} {n : Node} (h : blocks placed n = true)
    (note : Option MergeNote) : add placed n note = placed := by simp [add, h]

theorem add_of_not_blocks {placed : List Placed} {n : Node} (h : ¬ blocks placed n = true)
    (note : Option MergeNote) : add placed n note = placed ++ [⟨n, note⟩] := by simp [add, h]

theorem exists_key_add (placed : List Placed) (n : Node) (note : Option MergeNote) :
    ∃ p ∈ add placed n note, p.node.key = n.key := by
  by_cases h : blocks placed n = true
  · rw [add_of_blocks h]
    exact (blocks_iff.mp h).2
  · rw [add_of_not_blocks h]
    exact ⟨⟨n, note⟩, by simp, rfl⟩

theorem mem_add {placed : List Placed} {n : Node} {note : Option MergeNote} {p : Placed}
    (hp : p ∈ add placed n note) :
    p ∈ placed ∨ p = ⟨n, note⟩ ∧ ¬ blocks placed n = true := by
  by_cases h : blocks placed n = true
  · rw [add_of_blocks h] at hp
    exact .inl hp
  · rw [add_of_not_blocks h, List.mem_append, List.mem_singleton] at hp
    exact hp.imp_right fun heq => ⟨heq, h⟩

/-- No two rows with an id have the same key. -/
def Distinct (placed : List Placed) : Prop :=
  placed.Pairwise fun p q => p.node.id ≠ "" → p.node.key ≠ q.node.key

theorem Distinct.add {placed : List Placed} (h : Distinct placed) (n : Node)
    (note : Option MergeNote) : Distinct (Placed.add placed n note) := by
  by_cases hblocks : blocks placed n = true
  · rwa [add_of_blocks hblocks]
  · rw [add_of_not_blocks hblocks]
    refine List.pairwise_append.mpr ⟨h, List.pairwise_singleton _ _, ?_⟩
    rintro p hp q hq hid hkey
    rw [List.mem_singleton.mp hq] at hkey
    have hid' : n.id ≠ "" := Node.id_eq_of_key hkey ▸ hid
    exact hblocks (blocks_iff.mpr ⟨hid', p, hp, hkey⟩)

theorem Distinct.eq_of_key {placed : List Placed} (h : Distinct placed) {p q : Placed}
    (hp : p ∈ placed) (hq : q ∈ placed) (hid : p.node.id ≠ "")
    (hkey : p.node.key = q.node.key) : p = q := by
  by_contra hne
  have hsymm : Std.Symm fun p q : Placed => p.node.id ≠ "" → p.node.key ≠ q.node.key :=
    ⟨fun p q hpq hid heq => hpq (Node.id_eq_of_key heq ▸ hid) heq.symm⟩
  exact h.forall hp hq hne hid hkey

end Placed

/-- `placed'` arises from `placed` by placing rows that are on offer. -/
inductive Placing (offers : Placed → Prop) : List Placed → List Placed → Prop
  | refl (placed : List Placed) : Placing offers placed placed
  | add {placed placed' : List Placed} (run : Placing offers placed placed') (n : Node)
      (note : Option MergeNote) (offer : offers ⟨n, note⟩) :
      Placing offers placed (Placed.add placed' n note)

namespace Placing

variable {offers offers' : Placed → Prop} {placed placed' placed'' : List Placed}

theorem trans (h : Placing offers placed placed') (h' : Placing offers placed' placed'') :
    Placing offers placed placed'' := by
  induction h' with
  | refl => exact h
  | add run n note offer ih => exact ih.add n note offer

theorem single (placed : List Placed) (n : Node) (note : Option MergeNote) :
    Placing (fun p => p.node = n) placed (Placed.add placed n note) :=
  (Placing.refl placed).add n note rfl

theorem mono (h : Placing offers placed placed') (himp : ∀ p, offers p → offers' p) :
    Placing offers' placed placed' := by
  induction h with
  | refl => exact .refl _
  | add run n note offer ih => exact ih.add n note (himp _ offer)

/-- A row in a sequence of placements has to be on offer only when it is not a duplicate of what is
placed on its turn. -/
theorem foldl {α : Type} (node : α → Node) (note : α → Option MergeNote) (xs : List α)
    (placed : List Placed)
    (hoffers : ∀ pre a post, xs = pre ++ a :: post →
      ¬ Placed.blocks (pre.foldl (fun placed a => Placed.add placed (node a) (note a)) placed)
        (node a) = true → offers ⟨node a, note a⟩) :
    Placing offers placed
      (xs.foldl (fun placed a => Placed.add placed (node a) (note a)) placed) := by
  induction xs generalizing placed with
  | nil => exact .refl _
  | cons a xs ih =>
      have hfirst : Placing offers placed (Placed.add placed (node a) (note a)) := by
        by_cases hblocks : Placed.blocks placed (node a) = true
        · rw [Placed.add_of_blocks hblocks]
          exact .refl placed
        · exact (Placing.refl placed).add (node a) (note a) (hoffers [] a xs rfl hblocks)
      refine hfirst.trans (ih _ fun pre b post hsplit hblocks => ?_)
      exact hoffers (a :: pre) b post (congrArg (a :: ·) hsplit) hblocks

theorem isPrefix (h : Placing offers placed placed') : placed <+: placed' := by
  induction h with
  | refl => exact List.prefix_rfl
  | @add placed' run n note offer ih =>
      by_cases hblocks : Placed.blocks placed' n = true
      · rwa [Placed.add_of_blocks hblocks]
      · rw [Placed.add_of_not_blocks hblocks]
        exact ih.trans (List.prefix_append _ _)

theorem mem_of_mem (h : Placing offers placed placed') {p : Placed} (hp : p ∈ placed) :
    p ∈ placed' := h.isPrefix.subset hp

theorem distinct (h : Placing offers placed placed') (hd : Placed.Distinct placed) :
    Placed.Distinct placed' := by
  induction h with
  | refl => exact hd
  | add run n note offer ih => exact ih.add n note

theorem mem_or_offers (h : Placing offers placed placed') {p : Placed} (hp : p ∈ placed') :
    p ∈ placed ∨ offers p := by
  induction h with
  | refl => exact .inl hp
  | add run n note offer ih =>
      rcases Placed.mem_add hp with hp | ⟨rfl, -⟩
      · exact ih hp
      · exact .inr offer

end Placing

theorem exists_key_foldl {α : Type} (node : α → Node) (note : α → Option MergeNote) {xs : List α}
    (placed : List Placed) {a : α} (ha : a ∈ xs) :
    ∃ p ∈ xs.foldl (fun placed a => Placed.add placed (node a) (note a)) placed,
      p.node.key = (node a).key := by
  induction xs generalizing placed with
  | nil => simp at ha
  | cons b xs ih =>
      rcases List.mem_cons.mp ha with rfl | ha
      · obtain ⟨p, hp, hkey⟩ := Placed.exists_key_add placed (node a) (note a)
        have hrest : Placing (fun _ => True) (Placed.add placed (node a) (note a)) _ :=
          Placing.foldl node note xs _ fun _ _ _ _ _ => trivial
        exact ⟨p, hrest.mem_of_mem hp, hkey⟩
      · exact ih _ ha

/-! ### Merging a family -/

namespace Family

variable {f : Family}

/-- What may be placed around a row on its turn: rows of the page with an id, and the marked copies
of fetched rows. -/
inductive Aside (f : Family) : Placed → Prop
  | hit {n : Node} (mem : n ∈ f.page) (id_ne : n.id ≠ "") (note : Option MergeNote) :
      Aside f ⟨n, note⟩
  | parent {p : Node} (mem : p ∈ f.parents) (note : Option MergeNote) :
      Aside f ⟨f.hierarchy.expanded p, note⟩
  | child {parent c : Node} (mem : c ∈ f.fetchedChildren parent) (note : Option MergeNote) :
      Aside f ⟨f.hierarchy.expanded c, note⟩

theorem mem_pageChildren {parent c : Node} :
    c ∈ f.pageChildren parent ↔
      c ∈ f.page ∧ c.id ≠ "" ∧ c.id ≠ parent.id ∧ c.parent = parent.id := by
  simp [pageChildren, and_assoc]

theorem addChildren_below (placed : List Placed) (parent : Node) :
    Placing (fun p => p.node ∈ f.pageChildren parent ∨
        ∃ c ∈ f.fetchedChildren parent, p.node = f.hierarchy.expanded c)
      placed (f.addChildren placed parent) := by
  refine Placing.trans (Placing.foldl id (fun _ => none) _ placed fun pre c post hsplit _ => ?_)
    (Placing.foldl f.hierarchy.expanded (fun c => some (.childPlaced parent.id c.id)) _ _
      fun pre c post hsplit _ => ?_)
  · exact .inl (hsplit ▸ List.mem_append_right pre List.mem_cons_self)
  · exact .inr ⟨c, hsplit ▸ List.mem_append_right pre List.mem_cons_self, rfl⟩

theorem addChildren_placing (placed : List Placed) (parent : Node) :
    Placing f.Aside placed (f.addChildren placed parent) := by
  refine (addChildren_below placed parent).mono ?_
  rintro ⟨n, note⟩ (hn | ⟨c, hc, rfl⟩)
  · obtain ⟨hpage, hid, -, -⟩ := mem_pageChildren.mp hn
    exact .hit hpage hid note
  · exact .child hc note

/-- The parent of a row is the first row of the page with its id, or the copy of the first fetched
one. -/
theorem parentOf?_eq_some {n p : Node} (h : f.parentOf? n = some p) :
    n.parent ≠ "" ∧ (f.page.find? (·.id == n.parent) = some p ∨
      f.page.find? (·.id == n.parent) = none ∧
        ∃ q, f.parents.find? (·.id == n.parent) = some q ∧ p = f.hierarchy.expanded q) := by
  unfold parentOf? at h
  split at h
  · rename_i hcond
    refine ⟨by simpa using (Bool.and_eq_true_iff.mp hcond).2, ?_⟩
    rw [Option.orElse_eq_orElse, Option.orElse_eq_or, Option.or_eq_some_iff] at h
    rcases h with hpage | ⟨hnone, hfetched⟩
    · exact .inl hpage
    · obtain ⟨q, hq, rfl⟩ := Option.map_eq_some_iff.mp hfetched
      exact .inr ⟨hnone, q, hq, rfl⟩
  · cases h

theorem aside_of_parentOf? {n p : Node} (h : f.parentOf? n = some p) (note : Option MergeNote) :
    f.Aside ⟨p, note⟩ := by
  obtain ⟨hparent, hpage | ⟨-, q, hq, rfl⟩⟩ := parentOf?_eq_some h
  · have hid : p.id = n.parent := by simpa using List.find?_some hpage
    exact .hit (List.mem_of_find?_eq_some hpage) (hid ▸ hparent) note
  · exact .parent (List.mem_of_find?_eq_some hq) note

/-- Before a row nothing is placed, or its parent, which is not there yet, with its children. -/
theorem addParent_cases (placed : List Placed) (n : Node) :
    f.addParent placed n = placed ∨
      ∃ p, f.parentOf? n = some p ∧ ¬ Placed.blocks placed p = true ∧
        f.addParent placed n =
          if f.needsChildren p then
            f.addChildren (placed ++ [⟨p, some (.parentPlaced n.parent p.id)⟩]) p
          else placed ++ [⟨p, some (.parentPlaced n.parent p.id)⟩] := by
  unfold addParent
  cases hp : f.parentOf? n with
  | none => exact .inl rfl
  | some p =>
      by_cases hblocks : Placed.blocks placed p = true
      · exact .inl (if_pos hblocks)
      · exact .inr ⟨p, rfl, hblocks, if_neg hblocks⟩

theorem addParent_placing (placed : List Placed) (n : Node) :
    Placing f.Aside placed (f.addParent placed n) := by
  rcases f.addParent_cases placed n with hnone | ⟨p, hp, hblocks, heq⟩
  · rw [hnone]
    exact .refl placed
  · have hadd := (Placing.refl placed).add p (some (.parentPlaced n.parent p.id))
      (f.aside_of_parentOf? hp _)
    rw [Placed.add_of_not_blocks hblocks] at hadd
    rw [heq]
    split
    · exact hadd.trans (addChildren_placing _ p)
    · exact hadd

theorem addRow_placing (placed : List Placed) (n : Node) :
    Placing f.Aside (Placed.add (f.addParent placed n) n) (f.addRow placed n) := by
  unfold addRow
  split
  · exact addChildren_placing _ n
  · exact .refl _

/-- What may be placed at all. -/
def Offer (f : Family) (p : Placed) : Prop := f.Aside p ∨ p.node ∈ f.page

theorem addRow_offer {n : Node} (hn : n ∈ f.page) (placed : List Placed) :
    Placing f.Offer placed (f.addRow placed n) := by
  have hbefore := (addParent_placing placed n).mono fun p => (.inl : f.Aside p → f.Offer p)
  have hafter := (addRow_placing placed n).mono fun p => (.inl : f.Aside p → f.Offer p)
  exact (hbefore.add n none (.inr hn)).trans hafter

theorem foldl_addRow_placing {rows : List Node} (hrows : rows ⊆ f.page) (placed : List Placed) :
    Placing f.Offer placed (rows.foldl f.addRow placed) := by
  induction rows generalizing placed with
  | nil => exact .refl placed
  | cons n rows ih =>
      exact (addRow_offer (hrows List.mem_cons_self) placed).trans
        (ih (fun m hm => hrows (List.mem_cons_of_mem n hm)) _)

theorem merge_placing : Placing f.Offer [] f.merge := foldl_addRow_placing (List.Subset.refl _) []

theorem merge_distinct : Placed.Distinct f.merge := merge_placing.distinct .nil

theorem offer_of_mem_merge {p : Placed} (hp : p ∈ f.merge) : f.Offer p :=
  (merge_placing.mem_or_offers hp).resolve_left (List.not_mem_nil)

/-- What is there after the turn of a row stays. -/
theorem exists_mem_foldl_addRow {rows : List Node} (hrows : rows ⊆ f.page) {n : Node}
    (hn : n ∈ rows) {P : Placed → Prop} (hturn : ∀ placed, ∃ p ∈ f.addRow placed n, P p)
    (placed : List Placed) : ∃ p ∈ rows.foldl f.addRow placed, P p := by
  induction rows generalizing placed with
  | nil => simp at hn
  | cons m rows ih =>
      have htail : rows ⊆ f.page := fun k hk => hrows (List.mem_cons_of_mem m hk)
      rcases List.mem_cons.mp hn with rfl | hn
      · obtain ⟨p, hp, hP⟩ := hturn placed
        exact ⟨p, (foldl_addRow_placing htail _).mem_of_mem hp, hP⟩
      · exact ih htail hn _

theorem exists_key_foldl_addRow {rows : List Node} (hrows : rows ⊆ f.page) {n : Node}
    (hn : n ∈ rows) (placed : List Placed) :
    ∃ p ∈ rows.foldl f.addRow placed, p.node.key = n.key := by
  refine exists_mem_foldl_addRow hrows hn (fun placed => ?_) placed
  obtain ⟨p, hp, hkey⟩ := Placed.exists_key_add (f.addParent placed n) n none
  exact ⟨p, (addRow_placing placed n).mem_of_mem hp, hkey⟩

theorem exists_key_merge {n : Node} (hn : n ∈ f.page) : ∃ p ∈ f.merge, p.node.key = n.key :=
  exists_key_foldl_addRow (List.Subset.refl _) hn []

/-- What holds before all turns and is kept by the turn of each row holds after any turns. -/
theorem turns_induction {P : List Node → List Placed → Prop} (start : P [] [])
    (turn : ∀ pre n post, f.page = pre ++ n :: post → P pre (pre.foldl f.addRow []) →
      P (pre ++ [n]) (f.addRow (pre.foldl f.addRow []) n))
    {pre post : List Node} (hpage : f.page = pre ++ post) : P pre (pre.foldl f.addRow []) := by
  induction pre using List.reverseRecOn generalizing post with
  | nil => exact start
  | append_singleton pre n ih =>
      have hpage' : f.page = pre ++ n :: post := by simpa using hpage
      rw [List.foldl_append]
      exact turn pre n post hpage' (ih hpage')

/-! ### Rows without an id -/

/-- The rows of the page without an id among placed rows. -/
def bareHits (placed : List Placed) : List Node :=
  (placed.map Placed.node).filter fun n => n.origin ≠ .fetched ∧ n.id = ""

theorem bareHits_of_aside {placed placed' : List Placed} (h : Placing f.Aside placed placed') :
    bareHits placed' = bareHits placed := by
  induction h with
  | refl => rfl
  | @add placed' run n note offer ih =>
      by_cases hblocks : Placed.blocks placed' n = true
      · rw [Placed.add_of_blocks hblocks, ih]
      · have hnot : ¬ (n.origin ≠ .fetched ∧ n.id = "") := by
          cases offer with
          | hit mem id_ne => exact fun h => id_ne h.2
          | parent mem => exact fun h => h.1 rfl
          | child mem => exact fun h => h.1 rfl
        rw [Placed.add_of_not_blocks hblocks]
        simpa [bareHits, hnot] using ih

theorem bareHits_add (placed : List Placed) {n : Node} (hn : n.origin ≠ .fetched) :
    bareHits (Placed.add placed n) = bareHits placed ++ [n].filter (·.id = "") := by
  by_cases hid : n.id = ""
  · have hblocks : ¬ Placed.blocks placed n = true := fun h => (Placed.blocks_iff.mp h).1 hid
    rw [Placed.add_of_not_blocks hblocks]
    simp [bareHits, hid, hn]
  · by_cases hblocks : Placed.blocks placed n = true
    · rw [Placed.add_of_blocks hblocks]
      simp [hid]
    · rw [Placed.add_of_not_blocks hblocks]
      simp [bareHits, hid]

/-- Rows without an id are placed on their own turns only, so they keep their order. -/
theorem bareHits_foldl_addRow {rows : List Node} (horigin : ∀ n ∈ rows, n.origin ≠ .fetched)
    (placed : List Placed) :
    bareHits (rows.foldl f.addRow placed) = bareHits placed ++ rows.filter (·.id = "") := by
  induction rows generalizing placed with
  | nil => simp
  | cons n rows ih =>
      rw [List.foldl_cons, ih fun m hm => horigin m (List.mem_cons_of_mem n hm),
        bareHits_of_aside (addRow_placing placed n),
        bareHits_add _ (horigin n List.mem_cons_self),
        bareHits_of_aside (addParent_placing placed n), List.append_assoc, ← List.filter_append]
      rfl

theorem bareHits_merge (horigin : ∀ n ∈ f.page, n.origin ≠ .fetched) :
    bareHits f.merge = f.page.filter (·.id = "") := bareHits_foldl_addRow horigin []

end Family

end CriteriaSearch
