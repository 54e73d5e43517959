import CriteriaSearch.Proofs.Page.Siblings
import CriteriaSearch.Proofs.Search.Replies

/-!
# Parents before their children

A merge places no row before its parent if that is known. Together with the order of rows with one
parent this says how far an expansion may change the order of a page.
-/

namespace CriteriaSearch

namespace Family

variable {f : Family}

/-- A parent that is on the page, or among the fetched parents if there are to be any. -/
def Knows (f : Family) (p : String) : Prop :=
  p ≠ "" ∧ ((∃ m ∈ f.page, m.id = p) ∨
    f.expansion.includesParents = true ∧ ∃ q ∈ f.parents, q.id = p)

/-- What may be placed behind placed rows: a fetched row, or one whose parent is there if it is
known. -/
def Follows (f : Family) (placed : List Placed) (n : Node) : Prop :=
  n.origin = .fetched ∨ (f.Knows n.parent → ∃ m ∈ placed, m.node.id = n.parent)

def Led (f : Family) (placed : List Placed) : Prop :=
  ∀ pre q post, placed = pre ++ q :: post → f.Follows pre q.node

section Led

variable {placed placed' : List Placed} {n : Node}

theorem Follows.mono {n : Node} (h : f.Follows placed n) (hsub : placed ⊆ placed') :
    f.Follows placed' n := by
  refine h.imp_right fun hled hknown => ?_
  obtain ⟨m, hm, hid⟩ := hled hknown
  exact ⟨m, hsub hm, hid⟩

theorem Led.concat (h : f.Led placed) {q : Placed} (hq : f.Follows placed q.node) :
    f.Led (placed ++ [q]) := by
  intro pre r post hsplit
  rcases List.eq_nil_or_concat post with rfl | ⟨post, s, rfl⟩
  · obtain ⟨rfl, hlast⟩ := List.append_inj' hsplit rfl
    obtain rfl := List.singleton_inj.mp hlast
    exact hq
  · have hsplit' : placed ++ [q] = (pre ++ r :: post) ++ [s] := by simpa using hsplit
    exact h pre r post (List.append_inj' hsplit' rfl).1

theorem Led.placing {offers : Placed → Prop} (h : f.Led placed)
    (hrun : Placing offers placed placed') (hoffers : ∀ q, offers q → f.Follows placed q.node) :
    f.Led placed' := by
  induction hrun with
  | refl => exact h
  | @add placed' run n note offer ih =>
      by_cases hblocks : Placed.blocks placed' n = true
      · rwa [Placed.add_of_blocks hblocks]
      · rw [Placed.add_of_not_blocks hblocks]
        exact ih.concat ((hoffers _ offer).mono run.isPrefix.subset)

theorem Led.addChildren (h : f.Led placed) {parent : Node}
    (hparent : ∃ m ∈ placed, m.node.id = parent.id) : f.Led (f.addChildren placed parent) := by
  refine h.placing (addChildren_below placed parent) ?_
  rintro q (hq | ⟨c, -, hnode⟩)
  · rw [← (mem_pageChildren.mp hq).2.2.2] at hparent
    exact .inr fun _ => hparent
  · exact .inl (by rw [hnode]; rfl)

variable {pre post : List Node}

theorem Led.addParent (hf : f.Lineal) (hpage : f.page = pre ++ n :: post)
    (h : f.Led (pre.foldl f.addRow [])) : f.Led (f.addParent (pre.foldl f.addRow []) n) := by
  rcases f.addParent_cases (pre.foldl f.addRow []) n with hnone | ⟨q, hq, hblocks, heq⟩
  · rwa [hnone]
  · have hplaced : f.Led (pre.foldl f.addRow [] ++ [⟨q, some (.parentPlaced n.parent q.id)⟩]) :=
      h.concat (.inl (hf.origin_of_parentOf? hpage hq hblocks))
    rw [heq]
    split
    · exact hplaced.addChildren ⟨_, List.mem_append_right _ List.mem_cons_self, rfl⟩
    · exact hplaced

theorem exists_parentOf? (hon : f.expansion.includesParents = true) (hparent : n.parent ≠ "")
    (hid : ∀ q ∈ f.parents, (f.hierarchy.expanded q).id = q.id)
    (hknown : (∃ m ∈ f.page, m.id = n.parent) ∨ ∃ q ∈ f.parents, q.id = n.parent) :
    ∃ p, f.parentOf? n = some p ∧ p.id = n.parent := by
  have hcond : (f.expansion.includesParents && n.parent != "") = true := by simp [hon, hparent]
  unfold parentOf?
  rw [if_pos hcond]
  cases hfind : f.page.find? (·.id == n.parent) with
  | some p => exact ⟨p, rfl, by simpa using List.find?_some hfind⟩
  | none =>
      obtain ⟨q, hq, hqid⟩ := hknown.resolve_left fun ⟨m, hm, hmid⟩ =>
        List.find?_eq_none.mp hfind m hm (by simpa using hmid)
      cases hfind' : f.parents.find? (·.id == n.parent) with
      | none => exact absurd (by simpa using hqid) (List.find?_eq_none.mp hfind' q hq)
      | some r =>
          refine ⟨f.hierarchy.expanded r, rfl, ?_⟩
          rw [hid r (List.mem_of_find?_eq_some hfind')]
          simpa using List.find?_some hfind'

/-- On the turn of a row its parent is there, if it is known. -/
theorem Lineal.follows (hf : f.Lineal) (hpage : f.page = pre ++ n :: post) :
    f.Follows (f.addParent (pre.foldl f.addRow []) n) n := by
  have hpre : pre ⊆ f.page := fun m hm => hpage ▸ List.mem_append_left _ hm
  refine .inr fun hknown => ?_
  -- A parent on the page has had its turn, and a fetched one is placed right before the row.
  obtain ⟨hparent, hpagerow | ⟨hon, q, hq, hqid⟩⟩ := hknown
  · obtain ⟨m, hm, hid⟩ := hf.parent_before pre n post hpage hparent hpagerow
    obtain ⟨r, hr, hkey⟩ := exists_key_foldl_addRow hpre hm []
    exact ⟨r, (addParent_placing _ n).mem_of_mem hr, (Node.id_eq_of_key hkey).trans hid⟩
  · obtain ⟨p, hp, hpid⟩ := exists_parentOf? hon hparent hf.id_expanded (.inr ⟨q, hq, hqid⟩)
    obtain ⟨r, hr, hkey⟩ := exists_key_addParent hp (pre.foldl f.addRow [])
    exact ⟨r, hr, (Node.id_eq_of_key hkey).trans hpid⟩

theorem Led.addRow (hf : f.Lineal) (hpage : f.page = pre ++ n :: post)
    (h : f.Led (pre.foldl f.addRow [])) : f.Led (f.addRow (pre.foldl f.addRow []) n) := by
  have hturn := (Led.addParent hf hpage h).placing (Placing.single _ n none) fun q hq => by
    rw [hq]
    exact hf.follows hpage
  rw [addRow_eq]
  split
  · obtain ⟨q, hq, hkey⟩ := Placed.exists_key_add (f.addParent (pre.foldl f.addRow []) n) n none
    exact hturn.addChildren ⟨q, hq, Node.id_eq_of_key hkey⟩
  · exact hturn

/-- A merge places a row behind its parent if that is known. -/
theorem Lineal.led (hf : f.Lineal) (hpage : f.page = pre ++ post) :
    f.Led (pre.foldl f.addRow []) :=
  turns_induction (P := fun _ placed => f.Led placed)
    (fun _ _ _ hsplit => absurd hsplit (by simp)) (fun _ _ _ hpage h => Led.addRow hf hpage h)
    hpage

end Led

end Family

namespace Engine

variable {σ : Type} {x : Engine σ} {e : Expansion} {rows : List Row}

/-- The mark leaves the id of a fetched parent as it is. -/
theorem Gathered.id_expanded {exchanges : List Exchange} {f : Family}
    (h : x.Gathered rows e exchanges (.ok f)) (hname : x.hierarchy.id ≠ x.hierarchy.isExpanded)
    {q : Node} (hq : q ∈ f.parents) : (f.hierarchy.expanded q).id = q.id := by
  obtain ⟨row, -, rfl⟩ := h.readOff.parent_fetched q hq
  rw [h.hierarchy_eq]
  exact x.hierarchy.cellText_markExpanded row hname

theorem Gathered.lineal {exchanges : List Exchange} {f : Family}
    (h : x.Gathered rows e exchanges (.ok f)) (hname : x.hierarchy.id ≠ x.hierarchy.isExpanded)
    (hids : ∀ row ∈ rows, Hierarchy.cellText row x.hierarchy.id ≠ "")
    (hacyclic : Reconcile.Acyclic Node.id Node.parent (x.hierarchy.page rows)) : f.Lineal := by
  have hpage := h.page_eq
  have hmem : ∀ n ∈ f.page, n ∈ x.hierarchy.page rows ∧ n.id ≠ "" := by
    intro n hn
    obtain ⟨i, row, hrow, rfl⟩ := h.readOff.mem_page.mp hn
    rw [h.hierarchy_eq] at hn ⊢
    rw [hpage, (reconcile_perm _).mem_iff] at hn
    exact ⟨hn, hids row (List.mem_of_getElem? hrow)⟩
  refine ⟨fun _ => h.origin_ne, fun n hn => (hmem n hn).2, ?_, ?_, fun _ => h.id_expanded hname⟩
  · intro n hn heq
    obtain ⟨hn, hid⟩ := hmem n hn
    exact hacyclic.parent_ne hn (heq ▸ hid) heq
  · rintro pre n post hsplit hparent ⟨m, hm, hid⟩
    exact exists_parent_before hacyclic (hpage ▸ hsplit) hparent ⟨m, (hmem m hm).1, hid⟩

/-- A table whose rows have ids is left alone only if it has no rows. -/
theorem rows_eq_nil_of_idle {t : Table} (hmode : e.mode ≠ .none)
    (hids : ∀ row ∈ t.rows, Hierarchy.cellText row x.hierarchy.id ≠ "") (hidle : x.Idle t e) :
    t.rows = [] := by
  rcases hidle with hnone | hrows | hno
  · exact absurd hnone hmode
  · exact hrows
  · refine List.eq_nil_iff_forall_not_mem.mpr fun row hrow => ?_
    rw [Table.hasColumn_of_cellText_ne hrow (hids row hrow)] at hno
    cases hno

end Engine

namespace Hierarchy

/-- How the rows of a page stand in a table: rows with one parent in the order of the page, and rows
whose parent is known behind a row with its id. -/
structure KeepsOrder (h : Hierarchy) (known : String → Prop) (origins : List Origin)
    (after : List Row) : Prop where
  siblings : ∀ i j : Nat, i < j → ∀ a b row row', origins[i]? = some (Origin.hit a) →
    origins[j]? = some (Origin.hit b) → after[i]? = some row → after[j]? = some row' →
    cellText row h.parent = cellText row' h.parent → a < b
  behind : ∀ (j b : Nat) (row : Row), origins[j]? = some (Origin.hit b) → after[j]? = some row →
    cellText row h.parent ≠ "" → known (cellText row h.parent) →
    ∃ i < j, ∃ parent, after[i]? = some parent ∧ cellText parent h.id = cellText row h.parent

theorem keepsOrder_nil (h : Hierarchy) (known : String → Prop) : h.KeepsOrder known [] [] :=
  ⟨fun _ _ _ _ _ _ _ _ _ hrow => (by cases hrow), fun _ _ _ _ hrow => (by cases hrow)⟩

/-- The rows of a page are numbered in its order. -/
theorem pairwise_page (h : Hierarchy) (rows : List Row) : (h.page rows).Pairwise fun m n =>
    ∀ a b, m.origin = .hit a → n.origin = .hit b → a < b := by
  have hnumbers : ((h.page rows).map Node.origin).Pairwise fun o o' =>
      ∀ a b, o = Origin.hit a → o' = .hit b → a < b := by
    rw [map_origin_page, List.pairwise_map]
    refine List.pairwise_lt_range.imp fun hlt a b ha hb => ?_
    rwa [← Origin.hit.inj ha, ← Origin.hit.inj hb]
  exact List.pairwise_map.mp hnumbers

end Hierarchy

namespace Family

variable {f : Family} {before fetched : List Row}

theorem ReadOff.getElem?_merge (h : f.ReadOff before fetched) {i : Nat} {row : Row}
    (hrow : (f.merge.map (·.node.row))[i]? = some row) : ∃ q, f.merge[i]? = some q ∧
      q ∈ f.merge ∧ q.node.row = row ∧
      q.node.id = Hierarchy.cellText row f.hierarchy.id ∧
      q.node.parent = Hierarchy.cellText row f.hierarchy.parent := by
  rw [List.getElem?_map] at hrow
  obtain ⟨q, hq, rfl⟩ := Option.map_eq_some_iff.mp hrow
  have hmem := List.mem_of_getElem? hq
  have hkey := h.key_row hmem
  exact ⟨q, hq, hmem, rfl, (congrArg Prod.fst hkey).symm, (congrArg Prod.snd hkey).symm⟩

/-- A merge keeps the order of a page without a cycle of parents. -/
theorem Lineal.keepsOrder (hf : f.Lineal) (hread : f.ReadOff before fetched)
    (hordered : ∀ p, (Placed.hitsUnder p f.merge).Sublist
      ((f.hierarchy.page before).filter (·.parent == p))) :
    f.hierarchy.KeepsOrder
      (fun p => (∃ m ∈ f.page, m.id = p) ∨
        f.expansion.includesParents = true ∧ ∃ q ∈ f.parents, q.id = p)
      (f.merge.map (·.node.origin)) (f.merge.map (·.node.row)) := by
  constructor
  · intro i j hlt a b row row' ha hb hrow hrow' hparent
    obtain ⟨q, hq, -, rfl, -, hqparent⟩ := hread.getElem?_merge hrow
    obtain ⟨r, hr, -, rfl, -, hrparent⟩ := hread.getElem?_merge hrow'
    rw [List.getElem?_map, hq] at ha
    rw [List.getElem?_map, hr] at hb
    have horigin : q.node.origin = .hit a := Option.some.inj ha
    have horigin' : r.node.origin = .hit b := Option.some.inj hb
    have hpairs := ((f.hierarchy.pairwise_page before).sublist List.filter_sublist).sublist
      (hordered q.node.parent)
    rw [Placed.hitsUnder, List.pairwise_filter, List.pairwise_map] at hpairs
    have hget := List.getElem?_eq_some_iff.mp hq
    have hget' := List.getElem?_eq_some_iff.mp hr
    obtain ⟨hi, rfl⟩ := hget
    obtain ⟨hj, rfl⟩ := hget'
    refine List.pairwise_iff_getElem.mp hpairs i j hi hj hlt ?_ ?_ a b horigin horigin'
    · simp [horigin]
    · simp [horigin', hqparent, hrparent, hparent]
  · intro j b row hb hrow hne hknown
    obtain ⟨q, hq, hmem, rfl, -, hqparent⟩ := hread.getElem?_merge hrow
    rw [List.getElem?_map, hq] at hb
    have horigin : q.node.origin = .hit b := Option.some.inj hb
    have hhit : q.node.origin ≠ .fetched := by
      rw [horigin]
      exact Origin.noConfusion
    rw [← hqparent] at hne hknown ⊢
    obtain ⟨hj, hget⟩ := List.getElem?_eq_some_iff.mp hq
    have hsplit : f.merge = f.merge.take j ++ q :: f.merge.drop (j + 1) := by
      rw [← hget, List.getElem_cons_drop, List.take_append_drop]
    obtain ⟨m, hm, hid⟩ := (hf.led (List.append_nil f.page).symm _ _ _ hsplit).resolve_left hhit
      ⟨hne, hknown⟩
    obtain ⟨i, hi, rfl⟩ := List.mem_take_iff_getElem.mp hm
    rw [Nat.lt_min] at hi
    refine ⟨i, hi.1, _, by rw [List.getElem?_map, List.getElem?_eq_getElem hi.2]; rfl, ?_⟩
    rw [← hid]
    exact congrArg Prod.fst (hread.key_row (List.getElem_mem hi.2))

end Family

namespace Engine

variable {σ : Type}

/-- Without a cycle of parents the rows of a page with one parent keep their order, and a row comes
after one with the id of its parent if that is on the page or in the reply to the request for
missing parents. -/
theorem expand_keeps_order (x : Engine σ) (t : Table) (e : Expansion) (s : σ)
    (hname : x.hierarchy.id ≠ x.hierarchy.isExpanded)
    (hids : ∀ row ∈ t.rows, Hierarchy.cellText row x.hierarchy.id ≠ "")
    (hacyclic : Reconcile.Acyclic Node.id Node.parent (x.hierarchy.page t.rows))
    (hmode : e.mode ≠ .none) {after : Table} (hok : (x.expand t e s).1.outcome = .ok after) :
    ∃ origins,
      List.Forall₂
        (x.hierarchy.ComesFrom t.rows ((x.exchanges t e s).flatMap Exchange.rows)) origins
        after.rows ∧
      x.hierarchy.KeepsOrder
        (fun p => (∃ row ∈ t.rows, Hierarchy.cellText row x.hierarchy.id = p) ∨
          ∃ reply, x.ParentReply (x.pageOf t.rows) (x.exchanges t e s) reply ∧
            ∃ row ∈ reply.rows, Hierarchy.cellText row x.hierarchy.id = p)
        origins after.rows := by
  rcases x.expand_cases t e s with ⟨hidle, -, hsame⟩ | ⟨f, -, hgathered, hmerged⟩ |
    ⟨cause, -, -, herror⟩
  · obtain rfl := Except.ok.inj (hsame.symm.trans hok)
    rw [rows_eq_nil_of_idle hmode hids hidle]
    exact ⟨[], .nil, x.hierarchy.keepsOrder_nil _⟩
  · obtain rfl := Except.ok.inj (hmerged.symm.trans hok)
    have hread := hgathered.readOff
    have hlineal := hgathered.lineal hname hids hacyclic
    have hordered : ∀ p, (Placed.hitsUnder p f.merge).Sublist
        ((f.hierarchy.page t.rows).filter (·.parent == p)) := by
      intro p
      have hsub := hlineal.hitsUnder_merge p
      rwa [hgathered.page_eq, reconcile_filter_parent hacyclic, ← hgathered.hierarchy_eq] at hsub
    have hkeeps := hlineal.keepsOrder hread hordered
    have horigins := hread.origins
    rw [hgathered.hierarchy_eq] at hkeeps horigins
    rw [rows_withMerged]
    refine ⟨_, horigins, hkeeps.siblings, fun j b row hb hrow hne hknown => ?_⟩
    refine hkeeps.behind j b row hb hrow hne ?_
    rcases hknown with ⟨m, hm, hid⟩ | ⟨reply, hreply, m, hm, hid⟩
    · obtain ⟨i, hi⟩ := List.mem_iff_getElem?.mp hm
      have hmem := hread.mem_page.mpr ⟨i, m, hi, rfl⟩
      rw [hgathered.hierarchy_eq] at hmem
      exact .inl ⟨_, hmem, hid⟩
    · have hmem : x.hierarchy.node .fetched m ∈ f.parents :=
        hgathered.supplied_of_ok.mem_parents_iff.mpr ⟨reply, hreply, List.mem_map_of_mem hm⟩
      rw [hgathered.expansion_eq]
      exact .inr ⟨hgathered.supplied_of_ok.includesParents hmem, _, hmem, hid⟩
  · rw [herror] at hok
    cases hok

def latecomer : Row := [("id", .text "C"), ("parent_id", .text "P")]

def companion : Row := [("id", .text "B"), ("parent_id", .text "P")]

def householder : Row := [("id", .text "P")]

/-- Two children of one parent that is not there. -/
def hallway : Table where
  columns := [⟨"id", .text⟩, ⟨"parent_id", .text⟩]
  rows := [latecomer, companion]

def openHouse : Engine Unit where
  source := .ofFunction fun _ => .ok { rows := [householder] }

theorem openHouse_keeps_order :
    ∃ after, (openHouse.expand hallway { mode := .parent } ()).1.outcome = .ok after ∧
      after.rows.map (Hierarchy.cellText · "id") = ["P", "C", "B"] ∧
      ∃ origins,
        List.Forall₂ (openHouse.hierarchy.ComesFrom hallway.rows
          ((openHouse.exchanges hallway { mode := .parent } ()).flatMap Exchange.rows)) origins
          after.rows ∧
        openHouse.hierarchy.KeepsOrder
          (fun p => (∃ row ∈ hallway.rows, Hierarchy.cellText row openHouse.hierarchy.id = p) ∨
            ∃ reply, openHouse.ParentReply (openHouse.pageOf hallway.rows)
              (openHouse.exchanges hallway { mode := .parent } ()) reply ∧
              ∃ row ∈ reply.rows, Hierarchy.cellText row openHouse.hierarchy.id = p)
          origins after.rows := by
  have hids : ∀ row ∈ hallway.rows, Hierarchy.cellText row openHouse.hierarchy.id ≠ "" := by
    simp only [hallway, List.forall_mem_cons]
    decide
  have hacyclic : Reconcile.Acyclic Node.id Node.parent
      (openHouse.hierarchy.page hallway.rows) := by
    refine Reconcile.Acyclic.of_rank (fun id => if id = "P" then 0 else 1) ?_
    decide
  have hok : ∃ after, (openHouse.expand hallway { mode := .parent } ()).1.outcome = .ok after ∧
      after.rows.map (Hierarchy.cellText · "id") = ["P", "C", "B"] := ⟨_, rfl, by decide⟩
  obtain ⟨after, hafter, hrows⟩ := hok
  exact ⟨after, hafter, hrows, expand_keeps_order openHouse hallway { mode := .parent } ()
    (by decide) hids hacyclic (by decide) hafter⟩

/-- A child before its parent. -/
def doorstep : Table where
  columns := [⟨"id", .text⟩, ⟨"parent_id", .text⟩]
  rows := [latecomer, householder]

/-- An expansion without a mode leaves the child where it is. -/
theorem openHouse_leaves_child :
    [openHouse.hierarchy.id, openHouse.hierarchy.parent, openHouse.hierarchy.name,
        openHouse.hierarchy.isParent, openHouse.hierarchy.isExpanded].Nodup ∧
      (∀ row ∈ doorstep.rows, Hierarchy.cellText row openHouse.hierarchy.id ≠ "") ∧
      (doorstep.rows.map openHouse.hierarchy.key).Nodup ∧
      Reconcile.Acyclic Node.id Node.parent (openHouse.hierarchy.page doorstep.rows) ∧
      ∃ after, (openHouse.expand doorstep { mode := .none } ()).1.outcome = .ok after ∧
        after.rows = [latecomer, householder] ∧
        Hierarchy.cellText latecomer openHouse.hierarchy.parent =
          Hierarchy.cellText householder openHouse.hierarchy.id := by
  have hacyclic : Reconcile.Acyclic Node.id Node.parent
      (openHouse.hierarchy.page doorstep.rows) := by
    refine Reconcile.Acyclic.of_rank (fun id => if id = "P" then 0 else 1) ?_
    decide
  refine ⟨by decide, ?_, by decide, hacyclic, doorstep, openHouse.expand_of_idle (.inl rfl) (), rfl,
    by decide⟩
  simp only [doorstep, List.forall_mem_cons]
  decide

end Engine

end CriteriaSearch
