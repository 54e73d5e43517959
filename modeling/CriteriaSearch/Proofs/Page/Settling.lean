import CriteriaSearch.Proofs.Page.Columns
import CriteriaSearch.Proofs.Page.Following

/-!
# Expansions that find nothing to do

If the parents that a page lacks are found and are roots, then the expanded page lacks none. Another
expansion for parents fetches nothing and only puts the rows into the order of the hierarchy, in
which they stay from then on.
-/

namespace CriteriaSearch

namespace Hierarchy

/-- Rows with distinct keys among which are all parents that they name, without a cycle. -/
structure IsComplete (h : Hierarchy) (rows : List Row) : Prop where
  legible : ∀ row ∈ rows, h.IsLegible row
  keys_nodup : ((rows.map h.key).filter (·.1 ≠ "")).Nodup
  parents : ∀ row ∈ rows, cellText row h.parent ≠ "" →
    ∃ other ∈ rows, cellText other h.id = cellText row h.parent
  acyclic : Reconcile.Acyclic (cellText · h.id) (cellText · h.parent) rows

variable {h : Hierarchy} {rows : List Row}

theorem under_page : Reconcile.Under Node.id Node.parent (h.page rows) =
    Reconcile.Under (cellText · h.id) (cellText · h.parent) rows := by
  funext a b
  refine propext (and_congr_right fun _ => and_congr_right fun _ => ⟨?_, ?_⟩)
  · rintro ⟨n, hn, rfl, rfl⟩
    obtain ⟨i, row, hrow, rfl⟩ := mem_page.mp hn
    exact ⟨row, List.mem_of_getElem? hrow, rfl, rfl⟩
  · rintro ⟨row, hrow, rfl, rfl⟩
    obtain ⟨i, hi⟩ := List.mem_iff_getElem?.mp hrow
    exact ⟨_, mem_page.mpr ⟨i, row, hi, rfl⟩, rfl, rfl⟩

theorem acyclic_page : Reconcile.Acyclic Node.id Node.parent (h.page rows) ↔
    Reconcile.Acyclic (cellText · h.id) (cellText · h.parent) rows := by
  unfold Reconcile.Acyclic
  rw [under_page]

theorem IsComplete.perm {rows' : List Row} (hrows : h.IsComplete rows) (hperm : rows'.Perm rows) :
    h.IsComplete rows' := by
  refine ⟨fun row hrow => hrows.legible row (hperm.mem_iff.mp hrow), ?_,
    fun row hrow hparent => ?_, ?_⟩
  · exact (((hperm.map h.key).filter _).nodup_iff).mpr hrows.keys_nodup
  · obtain ⟨other, hother, hid⟩ := hrows.parents row (hperm.mem_iff.mp hrow) hparent
    exact ⟨other, hperm.mem_iff.mpr hother, hid⟩
  · refine hrows.acyclic.mono ?_
    rintro a b ⟨ha, hb, row, hrow, hid, hparent⟩
    exact ⟨ha, hb, row, hperm.mem_iff.mp hrow, hid, hparent⟩

theorem IsComplete.missingParents_eq (hrows : h.IsComplete rows) {page : List Node}
    (hpage : page.Perm (h.page rows)) : Supplement.missingParents page = [] := by
  refine List.eq_nil_iff_forall_not_mem.mpr fun id hid => ?_
  obtain ⟨⟨n, hn, rfl⟩, hne, hnone⟩ := Supplement.mem_missingParents.mp hid
  obtain ⟨i, row, hrow, rfl⟩ := mem_page.mp (hpage.mem_iff.mp hn)
  obtain ⟨other, hother, hother'⟩ := hrows.parents row (List.mem_of_getElem? hrow) hne
  obtain ⟨j, hj⟩ := List.mem_iff_getElem?.mp hother
  exact hnone _ (hpage.mem_iff.mpr (mem_page.mpr ⟨j, other, hj, rfl⟩)) hother'

end Hierarchy

namespace Family

variable {f : Family}

/-- If all parents have had their turns, then a merge places the page as it is. -/
theorem merge_eq_page (hchildren : f.expansion.includesChildren = false)
    (hkeys : f.page.Pairwise fun m n => m.id ≠ "" → m.key ≠ n.key)
    (hparents : ∀ pre n post, f.page = pre ++ n :: post → n.parent ≠ "" →
      ∃ m ∈ pre, m.id = n.parent) :
    f.merge = f.page.map (⟨·, none⟩) := by
  refine turns_induction (P := fun pre placed => placed = pre.map (⟨·, none⟩)) rfl
    (fun pre n post hpage h => ?_) (List.append_nil f.page).symm
  rw [h]
  have hparent : f.addParent (pre.map (⟨·, none⟩)) n = pre.map (⟨·, none⟩) := by
    refine (f.addParent_cases _ n).resolve_right ?_
    rintro ⟨p, hp, hblocks, -⟩
    obtain ⟨m, hm, hid⟩ := hparents pre n post hpage (parentOf?_eq_some hp).1
    obtain ⟨hmem, hpid⟩ := mem_of_parentOf? hpage hm hid hp
    exact hblocks (Placed.blocks_iff.mpr
      ⟨hpid, ⟨p, none⟩, List.mem_map.mpr ⟨p, hmem, rfl⟩, rfl⟩)
  have hfree : ¬ Placed.blocks (pre.map (⟨·, none⟩)) n = true := by
    intro hblocks
    obtain ⟨hid, q, hq, hkey⟩ := Placed.blocks_iff.mp hblocks
    obtain ⟨m, hm, rfl⟩ := List.mem_map.mp hq
    rw [hpage] at hkeys
    exact (List.pairwise_append.mp hkeys).2.2 m hm n List.mem_cons_self
      (Node.id_eq_of_key hkey ▸ hid) hkey
  have hneeds : ¬ f.needsChildren n = true := by simp [needsChildren, hchildren]
  rw [addRow_eq, if_neg hneeds, hparent, Placed.add_of_not_blocks hfree, List.map_append]
  rfl

/-- Without children only rows of the page and their parents are merged. -/
theorem mem_merge_of_no_children (hchildren : f.expansion.includesChildren = false) {p : Placed}
    (hp : p ∈ f.merge) : p.node ∈ f.page ∨ ∃ n ∈ f.page, f.parentOf? n = some p.node := by
  have hneeds : ∀ n, ¬ f.needsChildren n = true := fun n => by simp [needsChildren, hchildren]
  refine turns_induction (P := fun _ placed => ∀ p ∈ placed, p.node ∈ f.page ∨
    ∃ n ∈ f.page, f.parentOf? n = some p.node) (List.forall_mem_nil _)
    (fun pre n post hpage h p hp => ?_) (List.append_nil f.page).symm p hp
  have hn : n ∈ f.page := hpage ▸ List.mem_append_right pre List.mem_cons_self
  have hbefore : ∀ p ∈ f.addParent (pre.foldl f.addRow []) n, p.node ∈ f.page ∨
      ∃ n ∈ f.page, f.parentOf? n = some p.node := by
    intro p hp
    rcases f.addParent_cases (pre.foldl f.addRow []) n with hsame | ⟨q, hq, -, hplaced⟩
    · exact h p (hsame ▸ hp)
    · rw [hplaced, if_neg (hneeds q)] at hp
      rcases List.mem_append.mp hp with hp | hp
      · exact h p hp
      · rw [List.mem_singleton.mp hp]
        exact .inr ⟨n, hn, hq⟩
  rw [addRow_eq, if_neg (hneeds n)] at hp
  rcases Placed.mem_add hp with hp | ⟨rfl, -⟩
  · exact hbefore p hp
  · exact .inl hn

end Family

namespace Engine

variable {σ : Type} {x : Engine σ} {e : Expansion} {t : Table}

/-! ### Complete pages -/

/-- Nothing is fetched for a complete page that can be put in order. -/
theorem supply_of_complete (x : Engine σ) {page : List Node} (hmode : e.mode = .parent)
    (hmissing : Supplement.missingParents page = []) (s : σ) :
    x.supply page e s = ((.ok (x.familyOf page e [] []), []), s) := by
  have hon : e.includesParents = true := by simp [Expansion.includesParents, hmode]
  have hoff : e.includesChildren = false := by simp [Expansion.includesChildren, hmode]
  have hparents : x.fetchParents page = return .ok none := by
    rw [fetchParents, hmissing]
  rw [supply, if_pos hon, hparents, bind_apply]
  simp only [hoff]
  rfl

theorem merge_of_complete {rows : List Row} (hrows : x.hierarchy.IsComplete rows)
    (hmode : e.mode = .parent) :
    (x.familyOf (x.pageOf rows) e [] []).merge.map (·.node.row) =
      (x.pageOf rows).map Node.row := by
  have hoff : (x.familyOf (x.pageOf rows) e [] []).expansion.includesChildren = false := by
    simp [familyOf, Expansion.includesChildren, hmode]
  have hperm : (x.pageOf rows).Perm (x.hierarchy.page rows) := reconcile_perm _
  have hacyclic := Hierarchy.acyclic_page.mpr hrows.acyclic
  have hkeys : (x.pageOf rows).Pairwise fun m n => m.id ≠ "" → m.key ≠ n.key := by
    have hnodup := ((hperm.map Node.key).filter (·.1 ≠ "")).nodup_iff
    rw [x.hierarchy.map_page (fun _ _ => x.hierarchy.key_node _ _)] at hnodup
    have hpairs := hnodup.mpr hrows.keys_nodup
    rw [List.nodup_iff_pairwise_ne, List.pairwise_filter, List.pairwise_map] at hpairs
    refine hpairs.imp fun hmn hm hkey => ?_
    have hn := Node.id_eq_of_key hkey ▸ hm
    exact hmn (decide_eq_true hm) (decide_eq_true hn) hkey
  have hbefore : ∀ pre n post, x.pageOf rows = pre ++ n :: post → n.parent ≠ "" →
      ∃ m ∈ pre, m.id = n.parent := by
    intro pre n post hsplit hparent
    have hn : n ∈ x.pageOf rows := hsplit ▸ List.mem_append_right pre List.mem_cons_self
    refine exists_parent_before hacyclic hsplit hparent ?_
    by_contra hnone
    have hmissing : n.parent ∈ Supplement.missingParents (x.pageOf rows) := by
      refine Supplement.mem_missingParents.mpr ⟨⟨n, hn, rfl⟩, hparent, fun m hm hid => ?_⟩
      exact hnone ⟨m, hperm.mem_iff.mp hm, hid⟩
    rw [hrows.missingParents_eq hperm] at hmissing
    cases hmissing
  rw [Family.merge_eq_page hoff hkeys hbefore, List.map_map]
  rfl

theorem requireKeys_of_complete {rows : List Row} (hrows : x.hierarchy.IsComplete rows) :
    (x.familyOf (x.pageOf rows) e [] []).requireKeys = .ok () := by
  refine (Family.requireKeys_cases _).resolve_right ?_
  rintro ⟨-, n, hn, hnot⟩
  have hn : n ∈ x.pageOf rows := (List.mem_append.mp hn).resolve_right List.not_mem_nil
  obtain ⟨i, row, hrow, rfl⟩ := Hierarchy.mem_page.mp ((reconcile_perm _).mem_iff.mp hn)
  exact hnot (hrows.legible row (List.mem_of_getElem? hrow))

theorem withMerged_of_column {h : Hierarchy}
    (hcolumn : t.columns.any (·.name == h.isExpanded) = true) (placed : List Placed) :
    withMerged h t placed = { t with rows := placed.map (·.node.row) } := by
  unfold withMerged Table.addColumn
  exact if_pos hcolumn

/-! ### Repeated expansions -/

/-- The fetches of an expansion, how it ended, and the table as it is left. -/
structure Round where
  exchanges : List Exchange
  outcome : Except Failure Table
  table : Table

def round (x : Engine σ) (e : Expansion) (t : Table) (s : σ) : Round where
  exchanges := x.exchanges t e s
  outcome := (x.expand t e s).1.outcome
  table := ((x.expandInPlace e).run t s).1.2

/-- Expansions of one table after the other. -/
def rounds (x : Engine σ) : List Expansion → Table → σ → List Round
  | [], _, _ => []
  | e :: es, t, s =>
    x.round e t s :: x.rounds es (x.round e t s).table ((x.expandInPlace e).run t s).2

/-- All expansions of a table for parents go the same way. -/
def Settles (x : Engine σ) (t : Table) (r : Round) : Prop :=
  ∀ e s, e.mode = .parent → x.round e t s = r

theorem round_of_ok {s : σ} {after : Table} (hnone : x.exchanges t e s = [])
    (hok : (x.expand t e s).1.outcome = .ok after) : x.round e t s = ⟨[], .ok after, after⟩ := by
  have houtcome := hok
  rw [expand_outcome] at houtcome
  obtain ⟨_, -, hafter⟩ := map_eq_ok houtcome
  rw [round, hnone, hok, hafter]

theorem round_of_error {s : σ} {cause : Failure} (hnone : x.exchanges t e s = [])
    (herror : (x.expand t e s).1.outcome = .error cause) :
    x.round e t s = ⟨[], .error cause, t⟩ := by
  rw [round, hnone, herror, x.table_eq_of_error herror]

theorem Settles.rounds {r : Round} (h : x.Settles t r) (hstays : x.Settles r.table r)
    {es : List Expansion} (hmodes : ∀ e ∈ es, e.mode = .parent) (s : σ) :
    x.rounds es t s = es.map fun _ => r := by
  induction es generalizing t s with
  | nil => rfl
  | cons e es ih =>
      obtain ⟨hmode, hrest⟩ := List.forall_mem_cons.mp hmodes
      rw [Engine.rounds, h e s hmode, ih hstays hrest, List.map_cons]

theorem settles_of_idle (hidle : ∀ e : Expansion, e.mode = .parent → x.Idle t e) :
    x.Settles t ⟨[], .ok t, t⟩ := fun e s hmode =>
  round_of_ok (x.exchanges_of_idle (hidle e hmode) s) (x.expand_of_idle (hidle e hmode) s)

/-- A complete page that can be put in order is left in this order. -/
theorem round_of_arranged (hrows : x.hierarchy.IsComplete t.rows)
    (hcolumn : t.columns.any (·.name == x.hierarchy.isExpanded) = true) (hbusy : ¬ x.Idle t e)
    (hmode : e.mode = .parent)
    (harranged : x.hierarchy.arrange x.room t.rows = .ok (x.pageOf t.rows)) (s : σ) :
    x.round e t s = ⟨[], .ok { t with rows := (x.pageOf t.rows).map Node.row },
      { t with rows := (x.pageOf t.rows).map Node.row }⟩ := by
  have hmissing : Supplement.missingParents (x.pageOf t.rows) = [] :=
    hrows.missingParents_eq (reconcile_perm _)
  have hgather : (x.gather t.rows e s).1.1 = .ok (x.familyOf (x.pageOf t.rows) e [] []) := by
    rw [x.gather_of_arranged harranged, x.supply_of_complete hmode hmissing]
    simp only [mergeable, requireKeys_of_complete hrows]
  refine round_of_ok ?_ ?_
  · rw [x.exchanges_of_arranged hbusy harranged]
    exact congrArg (·.2.2) (x.journaled.supply_of_complete hmode hmissing (s, []))
  · rw [x.expand_of_gather hbusy hgather, withMerged_of_column hcolumn,
      merge_of_complete hrows hmode]

/-- A table with the rows of another one is left alone as that one is. -/
theorem Idle.of_perm {rows : List Row} (h : x.Idle { t with rows } e) (hperm : rows.Perm t.rows) :
    x.Idle t e := by
  rcases h with hnone | hnil | hcolumn
  · exact .inl hnone
  · obtain rfl : rows = [] := hnil
    exact .inr (.inl hperm.symm.eq_nil)
  · refine .inr (.inr ?_)
    rw [Table.hasColumn, ← hperm.any_eq]
    exact hcolumn

/-- A complete table stays as it is, is put in order by one more expansion, or cannot be put in
order as there is no room for its levels. -/
theorem exists_settles (hrows : x.hierarchy.IsComplete t.rows)
    (hcolumn : t.columns.any (·.name == x.hierarchy.isExpanded) = true) :
    ∃ settled outcome, settled.rows.Perm t.rows ∧ settled.columns = t.columns ∧
      (outcome = .ok settled ∨ outcome = .error (.tooDeep .calls) ∧ settled = t ∧
        ¬ Shallow x.room (x.hierarchy.page t.rows)) ∧
      x.Settles t ⟨[], outcome, settled⟩ ∧ x.Settles settled ⟨[], outcome, settled⟩ := by
  by_cases hidle : t.rows = [] ∨ t.hasColumn x.hierarchy.id = false
  · have hsame := settles_of_idle (x := x) fun _ _ => .inr hidle
    exact ⟨t, .ok t, .refl _, rfl, .inl rfl, hsame, hsame⟩
  have hbusy : ∀ e : Expansion, e.mode = .parent → ¬ x.Idle t e := by
    rintro e hmode (hnone | hrest)
    · rw [hmode] at hnone
      cases hnone
    · exact hidle hrest
  rcases x.hierarchy.arrange_cases x.room t.rows with ⟨-, harranged⟩ | ⟨⟨row, hrow, hnot⟩, -⟩ |
    ⟨-, hdeep, herror⟩
  · have hperm : ((x.pageOf t.rows).map Node.row).Perm t.rows := by
      have hmapped := (reconcile_perm (x.hierarchy.page t.rows)).map Node.row
      rwa [x.hierarchy.map_page (fun _ _ => rfl), List.map_id'] at hmapped
    let settled : Table := { t with rows := (x.pageOf t.rows).map Node.row }
    have hagain := Hierarchy.arrange_again harranged
    have hpage : x.hierarchy.page settled.rows = x.pageOf settled.rows :=
      (Hierarchy.arrange_eq_ok hagain).2
    have hrows' : (x.pageOf settled.rows).map Node.row = settled.rows := by
      rw [← hpage, x.hierarchy.map_page (fun _ _ => rfl), List.map_id']
    have hstays : x.Settles settled ⟨[], .ok settled, settled⟩ := fun e s hmode => by
      have hround := round_of_arranged (t := settled) (hrows.perm hperm) hcolumn
        (fun h => hbusy e hmode (h.of_perm hperm)) hmode (hagain.trans (congrArg _ hpage)) s
      rwa [hrows'] at hround
    exact ⟨settled, .ok settled, hperm, rfl, .inl rfl,
      fun e s hmode => round_of_arranged hrows hcolumn (hbusy e hmode) hmode harranged s, hstays⟩
  · exact absurd (hrows.legible row hrow) hnot
  · have hround : x.Settles t ⟨[], .error (.tooDeep .calls), t⟩ := fun e s hmode =>
      have hends := x.expand_of_disordered (hbusy e hmode) herror s
      round_of_error hends.2 hends.1
    exact ⟨t, _, .refl _, rfl, .inr ⟨rfl, rfl, hdeep⟩, hround, hround⟩

/-! ### After the first expansion -/

theorem any_isExpanded_withMerged (h : Hierarchy) (t : Table) (placed : List Placed) :
    (withMerged h t placed).columns.any (·.name == h.isExpanded) = true := by
  unfold withMerged Table.addColumn
  by_cases hcolumn : t.columns.any (·.name == h.isExpanded) = true
  · rw [if_pos hcolumn]
    exact hcolumn
  · rw [if_neg hcolumn]
    simp

variable {exchanges : List Exchange} {f : Family}

/-- A reply with all missing parents makes them known. -/
theorem Gathered.exists_parent (h : x.Gathered t.rows e exchanges (.ok f))
    (hmode : e.mode = .parent)
    (hall : ∀ ex ∈ exchanges, ∀ id ∈ Supplement.missingParents (x.pageOf t.rows),
      ∃ row ∈ ex.rows, Hierarchy.cellText row x.hierarchy.id = id) {id : String}
    (hid : id ∈ Supplement.missingParents (x.pageOf t.rows)) : ∃ q ∈ f.parents, q.id = id := by
  cases h.supplied_of_ok with
  | @complete xs ys found children parents rest =>
      cases parents with
      | skipped off => simp [Expansion.includesParents, hmode] at off
      | complete on nil =>
          rw [nil] at hid
          cases hid
      | @fetched r u on ne_nil request =>
          obtain ⟨row, hrow, hrowid⟩ := hall (.answered r u) (by simp) id hid
          exact ⟨_, List.mem_map_of_mem hrow, hrowid⟩

/-- A merged row with a parent is one of the page. -/
theorem Gathered.mem_of_merged (h : x.Gathered t.rows e exchanges (.ok f))
    (hnames : x.hierarchy.names.Nodup)
    (hroots : ∀ ex ∈ exchanges, ∀ row ∈ ex.rows, Hierarchy.cellText row x.hierarchy.parent = "")
    {row : Row} (hrow : row ∈ f.merge.map (·.node.row))
    (hparent : Hierarchy.cellText row x.hierarchy.parent ≠ "") : row ∈ t.rows := by
  rw [← rows_withMerged x.hierarchy t] at hrow
  rcases h.row_cases hrow with hmem | ⟨fetched, hfetched, rfl⟩
  · exact hmem
  · exfalso
    obtain ⟨ex, hex, hexrow⟩ := List.mem_flatMap.mp hfetched
    have hroot := (x.hierarchy.expanded_node hnames fetched).2.1
    exact hparent (hroot.trans (hroots ex hex fetched hexrow))

/-- The parent of a row of the page is merged. -/
theorem Gathered.exists_merged_parent (h : x.Gathered t.rows e exchanges (.ok f))
    (hnames : x.hierarchy.names.Nodup) (hmode : e.mode = .parent)
    (hall : ∀ ex ∈ exchanges, ∀ id ∈ Supplement.missingParents (x.pageOf t.rows),
      ∃ row ∈ ex.rows, Hierarchy.cellText row x.hierarchy.id = id)
    {row : Row} (hrow : row ∈ t.rows) (hparent : Hierarchy.cellText row x.hierarchy.parent ≠ "") :
    ∃ other ∈ f.merge.map (·.node.row),
      Hierarchy.cellText other x.hierarchy.id = Hierarchy.cellText row x.hierarchy.parent := by
  have hread := h.readOff
  obtain ⟨i, hi⟩ := List.mem_iff_getElem?.mp hrow
  have hn : x.hierarchy.node (.hit i) row ∈ f.page :=
    hread.mem_page.mpr ⟨i, row, hi, by rw [h.hierarchy_eq]⟩
  have hon : f.expansion.includesParents = true := by
    rw [h.expansion_eq]
    simp [Expansion.includesParents, hmode]
  have hid : ∀ q ∈ f.parents, (f.hierarchy.expanded q).id = q.id :=
    fun _ => h.id_expanded (x.hierarchy.id_ne_isExpanded hnames)
  have hknown : (∃ m ∈ f.page, m.id = (x.hierarchy.node (.hit i) row).parent) ∨
      ∃ q ∈ f.parents, q.id = (x.hierarchy.node (.hit i) row).parent := by
    by_cases hmem : ∃ m ∈ f.page, m.id = (x.hierarchy.node (.hit i) row).parent
    · exact .inl hmem
    · refine .inr (h.exists_parent hmode hall (Supplement.mem_missingParents.mpr ?_))
      rw [show x.pageOf t.rows = f.page from h.page_eq.symm]
      exact ⟨⟨_, hn, rfl⟩, hparent, fun m hm hmid => hmem ⟨m, hm, hmid⟩⟩
  obtain ⟨p, hp, hpid⟩ := Family.exists_parentOf? hon hparent hid hknown
  obtain ⟨q, hq, hkey⟩ := Family.exists_key_of_parentOf? hn hp
  have hqid : (f.hierarchy.key q.node.row).1 = p.id :=
    congrArg Prod.fst ((hread.key_row hq).trans hkey)
  rw [h.hierarchy_eq] at hqid
  exact ⟨q.node.row, List.mem_map_of_mem hq, hqid.trans hpid⟩

/-- The keys of merged rows can be read. -/
theorem Gathered.legible (h : x.Gathered t.rows e exchanges (.ok f)) (hmode : e.mode = .parent) :
    ∀ row ∈ f.merge.map (·.node.row), x.hierarchy.IsLegible row := by
  obtain ⟨harranged, -, hkeys⟩ := h.of_ok
  have hoff : f.expansion.includesChildren = false := by
    rw [h.expansion_eq]
    simp [Expansion.includesChildren, hmode]
  intro row hrow
  obtain ⟨p, hp, rfl⟩ := List.mem_map.mp hrow
  rcases Family.mem_merge_of_no_children hoff hp with hpage | ⟨n, hn, hparent⟩
  · rw [h.page_eq] at hpage
    exact Hierarchy.legible_of_arrange harranged _ hpage
  · rw [← h.hierarchy_eq]
    exact Family.legible_of_requireKeys hkeys n hn _ hparent

theorem Gathered.isComplete (h : x.Gathered t.rows e exchanges (.ok f))
    (hnames : x.hierarchy.names.Nodup) (hmode : e.mode = .parent)
    (hacyclic : Reconcile.Acyclic Node.id Node.parent (x.hierarchy.page t.rows))
    (hroots : ∀ ex ∈ exchanges, ∀ row ∈ ex.rows, Hierarchy.cellText row x.hierarchy.parent = "")
    (hall : ∀ ex ∈ exchanges, ∀ id ∈ Supplement.missingParents (x.pageOf t.rows),
      ∃ row ∈ ex.rows, Hierarchy.cellText row x.hierarchy.id = id) :
    x.hierarchy.IsComplete (f.merge.map (·.node.row)) := by
  refine ⟨h.legible hmode, ?_, fun row hrow hparent => ?_,
    (Hierarchy.acyclic_page.mp hacyclic).mono ?_⟩
  · have hkeys := h.readOff.keys_nodup
    rwa [h.hierarchy_eq] at hkeys
  · have hmem := h.mem_of_merged hnames hroots hrow hparent
    exact h.exists_merged_parent hnames hmode hall hmem hparent
  · rintro a b ⟨ha, hb, row, hrow, rfl, rfl⟩
    exact ⟨ha, hb, row, h.mem_of_merged hnames hroots hrow hb, rfl, rfl⟩

/-- If all parents that a page lacks are found, and what is found are roots, then later expansions
for parents fetch nothing and keep all rows, and the table after the second one is final. They
succeed, unless there is no room for the levels of the page and a parent that was found. -/
theorem expand_settles (x : Engine σ) (t : Table) (e : Expansion) (s : σ)
    (hnames : x.hierarchy.names.Nodup) (hmode : e.mode = .parent)
    (hacyclic : Reconcile.Acyclic Node.id Node.parent (x.hierarchy.page t.rows))
    (hroots : ∀ ex ∈ x.exchanges t e s, ∀ row ∈ ex.rows,
      Hierarchy.cellText row x.hierarchy.parent = "")
    (hall : ∀ ex ∈ x.exchanges t e s, ∀ id ∈ Supplement.missingParents (x.pageOf t.rows),
      ∃ row ∈ ex.rows, Hierarchy.cellText row x.hierarchy.id = id)
    {after : Table} (hok : (x.expand t e s).1.outcome = .ok after) :
    ∃ settled outcome, settled.rows.Perm after.rows ∧ settled.columns = after.columns ∧
      (outcome = .ok settled ∨ outcome = .error (.tooDeep .calls) ∧ settled = after ∧
        ¬ Shallow x.room (x.hierarchy.page after.rows)) ∧
      ∀ es s', (∀ e' ∈ es, e'.mode = .parent) →
        x.rounds es after s' = es.map fun _ => ⟨[], outcome, settled⟩ := by
  have hsettles : ∃ settled outcome, settled.rows.Perm after.rows ∧
      settled.columns = after.columns ∧
      (outcome = .ok settled ∨ outcome = .error (.tooDeep .calls) ∧ settled = after ∧
        ¬ Shallow x.room (x.hierarchy.page after.rows)) ∧
      x.Settles after ⟨[], outcome, settled⟩ ∧ x.Settles settled ⟨[], outcome, settled⟩ := by
    rcases x.expand_cases t e s with ⟨hidle, -, hsame⟩ | ⟨f, -, hgathered, hmerged⟩ |
      ⟨cause, -, -, herror⟩
    · obtain rfl := Except.ok.inj (hsame.symm.trans hok)
      have hstays : x.Settles t ⟨[], .ok t, t⟩ := by
        refine settles_of_idle fun e' hmode' => ?_
        rcases hidle with hnone | hrest
        · rw [hmode] at hnone
          cases hnone
        · exact .inr hrest
      exact ⟨t, .ok t, .refl _, rfl, .inl rfl, hstays, hstays⟩
    · obtain rfl := Except.ok.inj (hmerged.symm.trans hok)
      have hcomplete := hgathered.isComplete hnames hmode hacyclic hroots hall
      rw [← rows_withMerged x.hierarchy t] at hcomplete
      exact exists_settles hcomplete (any_isExpanded_withMerged _ _ _)
    · rw [herror] at hok
      cases hok
  obtain ⟨settled, outcome, hperm, hcolumns, houtcome, hfirst, hstays⟩ := hsettles
  exact ⟨settled, outcome, hperm, hcolumns, houtcome,
    fun es s' hmodes => hfirst.rounds hstays hmodes s'⟩

theorem nursery_settles :
    ∃ after, (nursery.expand (.ofRows [onlyChild]) { mode := .parent } ()).1.outcome = .ok after ∧
      after.rows = [nursery.hierarchy.markExpanded soleParent, onlyChild] ∧
      ∃ settled, settled.rows.Perm after.rows ∧ settled.columns = after.columns ∧
        ∀ es s', (∀ e' ∈ es, e'.mode = .parent) →
          nursery.rounds es after s' = es.map fun _ => ⟨[], .ok settled, settled⟩ := by
  have hbusy : ¬ nursery.Idle (.ofRows [onlyChild]) { mode := .parent } :=
    nursery.not_idle Expansion.Mode.noConfusion (List.cons_ne_nil _ _) (by decide)
  have hok := nursery.expand_of_gather hbusy gather_onlyChild
  have hacyclic : Reconcile.Acyclic Node.id Node.parent
      (nursery.hierarchy.page (Table.ofRows [onlyChild]).rows) := by
    refine Reconcile.Acyclic.of_rank (fun id => if id = "P" then 0 else 1) ?_
    decide
  have hpage : nursery.hierarchy.arrange nursery.room (Table.ofRows [onlyChild]).rows =
      .ok nurseryGathered.page := rfl
  have hmissing : Supplement.missingParents
      (nursery.pageOf (Table.ofRows [onlyChild]).rows) = ["P"] := by
    rw [← nursery.arrange_eq_pageOf hpage]
    decide
  have hrows : ∀ ex ∈ nursery.exchanges (.ofRows [onlyChild]) { mode := .parent } (),
      ex.rows = [soleParent] := by
    intro ex hex
    obtain ⟨_, hs⟩ := nursery.genuine_of_mem_exchanges hex
    rw [Exchange.rows, ← hs]
    rfl
  have hsettles := expand_settles nursery (.ofRows [onlyChild]) { mode := .parent } ()
    (by decide) rfl hacyclic (fun ex hex row hrow => by
      rw [hrows ex hex] at hrow
      rw [List.mem_singleton.mp hrow]
      decide)
    (fun ex hex id hid => by
      rw [hmissing] at hid
      rw [hrows ex hex, List.mem_singleton.mp hid]
      exact ⟨soleParent, List.mem_singleton_self _, by decide⟩) hok
  obtain ⟨settled, outcome, hperm, hcolumns, rfl | ⟨-, -, hdeep⟩, hrounds⟩ := hsettles
  · exact ⟨_, hok, rfl, settled, hperm, hcolumns, hrounds⟩
  · exact absurd (shallow_of_length_le (by decide)) hdeep

end Engine

end CriteriaSearch
