import CriteriaSearch.Proofs.Page.FanOut
import CriteriaSearch.Proofs.Page.Merge
import Mathlib.Data.List.Count
import Mathlib.Data.List.Forall2

/-!
# What an expansion leaves of a page

Rows enter the expanded table as rows of the page or as marked copies of fetched rows. Every row is
followed from its origin: keys occur once, no key of the page is lost, and rows without an id are
kept one by one, whatever rows the source answers with.
-/

namespace CriteriaSearch

namespace Hierarchy

theorem get_markExpanded_self (h : Hierarchy) (row : Row) :
    Row.get (h.markExpanded row) h.isExpanded = .bool true :=
  congrArg (·.getD .null) (Named.get?_set_self row h.isExpanded (.bool true))

theorem get_markExpanded_of_ne (h : Hierarchy) (row : Row) {name : String}
    (hname : name ≠ h.isExpanded) : Row.get (h.markExpanded row) name = Row.get row name :=
  congrArg (·.getD .null) (Named.get?_set_of_ne row (.bool true) hname)

theorem cell_markExpanded (h : Hierarchy) (row : Row) {name : String}
    (hname : name ≠ h.isExpanded) : cell (h.markExpanded row) name = cell row name := by
  unfold cell
  rw [h.get_markExpanded_of_ne row hname]

theorem cellText_markExpanded (h : Hierarchy) (row : Row) {name : String}
    (hname : name ≠ h.isExpanded) : cellText (h.markExpanded row) name = cellText row name := by
  unfold cellText
  rw [h.cell_markExpanded row hname]

theorem hasText_markExpanded (h : Hierarchy) {row : Row} {name : String} (hrow : HasText row name) :
    HasText (h.markExpanded row) name := by
  by_cases hname : name = h.isExpanded
  · rw [hname, hasText_iff, h.get_markExpanded_self]
    rfl
  · rwa [HasText, h.cell_markExpanded row hname]

/-- The mark of a row that can be read can be read. -/
theorem IsLegible.markExpanded {h : Hierarchy} {row : Row} (hrow : h.IsLegible row) :
    h.IsLegible (h.markExpanded row) := fun name hname => h.hasText_markExpanded (hrow name hname)

/-- The names of the cells that describe the hierarchy, to be pairwise distinct. -/
def names (h : Hierarchy) : List String := [h.id, h.parent, h.name, h.isParent, h.isExpanded]

theorem id_ne_isExpanded (h : Hierarchy) (hnames : h.names.Nodup) : h.id ≠ h.isExpanded := by
  simp only [names, List.nodup_cons, List.mem_cons, not_or] at hnames
  exact hnames.1.2.2.2.1

/-- A marked copy has the place in the hierarchy that its row has. -/
theorem expanded_node (h : Hierarchy) (hnames : h.names.Nodup) (row : Row) :
    (h.expanded (h.node .fetched row)).id = (h.node .fetched row).id ∧
      (h.expanded (h.node .fetched row)).parent = (h.node .fetched row).parent ∧
      (h.expanded (h.node .fetched row)).isParent = (h.node .fetched row).isParent := by
  simp only [names, List.nodup_cons, List.mem_cons, not_or] at hnames
  obtain ⟨⟨-, -, -, hid, -⟩, ⟨-, -, hparent, -⟩, -, ⟨hflag, -⟩, -⟩ := hnames
  exact ⟨h.cellText_markExpanded row hid, h.cellText_markExpanded row hparent,
    congrArg Value.isFlag (h.get_markExpanded_of_ne row hflag)⟩

/-- A copy of a row in which the mark of fetched rows is set, and all other cells are as they
were. -/
structure IsMarkedCopy (h : Hierarchy) (row copy : Row) : Prop where
  mark : Row.get copy h.isExpanded = .bool true
  others : ∀ name, name ≠ h.isExpanded → Named.get? copy name = Named.get? row name

theorem isMarkedCopy_markExpanded (h : Hierarchy) (row : Row) :
    h.IsMarkedCopy row (h.markExpanded row) :=
  ⟨h.get_markExpanded_self row, fun _ hname => Named.get?_set_of_ne row (.bool true) hname⟩

/-- A row of a table after an expansion is a row of the table before, or the marked copy of a
fetched row. -/
inductive ComesFrom (h : Hierarchy) (before fetched : List Row) : Origin → Row → Prop
  | hit {i : Nat} {row : Row} (get : before[i]? = some row) :
      ComesFrom h before fetched (.hit i) row
  | fetched {row marked : Row} (mem : row ∈ fetched) (copy : h.IsMarkedCopy row marked) :
      ComesFrom h before fetched .fetched marked

/-- A node is read off a row with its origin. -/
structure Stems (h : Hierarchy) (before fetched : List Row) (n : Node) : Prop where
  node_eq : n = h.node n.origin n.row
  comesFrom : ComesFrom h before fetched n.origin n.row

theorem Stems.id_eq_of_hit {h : Hierarchy} {before fetched : List Row} {n : Node}
    (hn : h.Stems before fetched n) {i : Nat} (horigin : n.origin = .hit i) {row : Row}
    (hrow : before[i]? = some row) : n.id = (h.key row).1 := by
  obtain ⟨hnode, hfrom⟩ := hn
  rw [horigin] at hnode hfrom
  cases hfrom with
  | hit hget =>
      rw [hnode, ← Option.some.inj (hget.symm.trans hrow)]
      rfl

/-- The table `after` completes `before` with fetched rows. -/
structure Completes (h : Hierarchy) (fetched : List Row) (before after : Table) : Prop where
  keys_nodup : ((after.rows.map h.key).filter (·.1 ≠ "")).Nodup
  key_kept : ∀ row ∈ before.rows, (h.key row).1 ≠ "" → h.key row ∈ after.rows.map h.key
  origins : ∃ origins : List Origin,
    List.Forall₂ (ComesFrom h before.rows fetched) origins after.rows ∧
      ∀ i row, before.rows[i]? = some row → (h.key row).1 = "" → origins.count (.hit i) = 1
  name_eq : after.name = before.name
  totalFound_eq : after.totalFound = before.totalFound
  offset_eq : after.offset = before.offset
  limit_eq : after.limit = before.limit
  columns : after.columns =
    if before.rows = [] ∨ ∃ c ∈ before.columns, c.name = h.isExpanded then before.columns
    else before.columns ++ [⟨h.isExpanded, .boolean⟩]

theorem completes_self_of_rows_nil {h : Hierarchy} {t : Table} (hrows : t.rows = [])
    (fetched : List Row) : h.Completes fetched t t := by
  refine ⟨by simp [hrows], by simp [hrows], ⟨[], ?_, by simp [hrows]⟩, rfl, rfl, rfl, rfl,
    (if_pos (.inl hrows)).symm⟩
  rw [hrows]
  exact .nil

/-! ### Pages -/

theorem map_origin_page (h : Hierarchy) (rows : List Row) :
    (h.page rows).map Node.origin = (List.range rows.length).map .hit := by
  rw [page, List.map_map, List.range_eq_range', ← List.zipIdx_map_snd 0 rows, List.map_map]
  rfl

theorem count_origin_page (h : Hierarchy) (rows : List Row) {i : Nat} (hi : i < rows.length) :
    ((h.page rows).map Node.origin).count (.hit i) = 1 := by
  have hinjective : Function.Injective Origin.hit := fun _ _ h => Origin.hit.inj h
  rw [map_origin_page, List.count_map_of_injective _ _ hinjective,
    List.count_eq_one_of_mem List.nodup_range (List.mem_range.mpr hi)]

end Hierarchy

/-- A row that has a text in a cell makes a column of it. -/
theorem Table.hasColumn_of_cellText_ne {t : Table} {row : Row} {name : String} (hrow : row ∈ t.rows)
    (hcell : Hierarchy.cellText row name ≠ "") : t.hasColumn name = true := by
  have hhas : Named.has row name = true := by
    by_contra hnot
    have hnone : Named.get? row name = none := by
      refine List.lookup_eq_none_iff.mpr fun cell hmem => ?_
      refine bne_iff_ne.mpr fun heq => hnot (List.any_eq_true.mpr ⟨cell, hmem, ?_⟩)
      exact beq_iff_eq.mpr heq.symm
    exact hcell (by simp [Hierarchy.cellText, Hierarchy.cell, Row.get, hnone, Value.first,
      Value.isNull, Except.toOption])
  exact Bool.or_eq_true_iff.mpr (.inr (List.any_eq_true.mpr ⟨row, hrow, hhas⟩))

/-! ### What a family is made of -/

namespace Family

/-- A family is read off the rows of a page and fetched rows. -/
structure ReadOff (f : Family) (before fetched : List Row) : Prop where
  page_perm : f.page.Perm (f.hierarchy.page before)
  parent_fetched : ∀ p ∈ f.parents, ∃ row ∈ fetched, p = f.hierarchy.node .fetched row
  child_fetched : ∀ parent, ∀ c ∈ f.fetchedChildren parent,
    ∃ row ∈ fetched, c = f.hierarchy.node .fetched row

namespace ReadOff

variable {f : Family} {before fetched : List Row} {nodes : List Node}

theorem mem_page (h : f.ReadOff before fetched) {n : Node} :
    n ∈ f.page ↔ ∃ i row, before[i]? = some row ∧ n = f.hierarchy.node (.hit i) row :=
  h.page_perm.mem_iff.trans Hierarchy.mem_page

theorem stems_of_mem_page (h : f.ReadOff before fetched) {n : Node} (hn : n ∈ f.page) :
    f.hierarchy.Stems before fetched n := by
  obtain ⟨i, row, hrow, rfl⟩ := h.mem_page.mp hn
  exact ⟨rfl, .hit hrow⟩

theorem stems_of_mem_merge (h : f.ReadOff before fetched) {p : Placed} (hp : p ∈ f.merge) :
    f.hierarchy.Stems before fetched p.node := by
  rcases offer_of_mem_merge hp with haside | hpage
  · cases haside with
    | hit mem id_ne note => exact h.stems_of_mem_page mem
    | parent mem note =>
        obtain ⟨row, hrow, rfl⟩ := h.parent_fetched _ mem
        exact ⟨rfl, .fetched hrow (f.hierarchy.isMarkedCopy_markExpanded row)⟩
    | child mem note =>
        obtain ⟨row, hrow, rfl⟩ := h.child_fetched _ _ mem
        exact ⟨rfl, .fetched hrow (f.hierarchy.isMarkedCopy_markExpanded row)⟩
  · exact h.stems_of_mem_page hpage

theorem key_row (h : f.ReadOff before fetched) {p : Placed} (hp : p ∈ f.merge) :
    f.hierarchy.key p.node.row = p.node.key := by
  rw [← f.hierarchy.key_node p.node.origin, ← (h.stems_of_mem_merge hp).node_eq]

theorem map_key (h : f.ReadOff before fetched) :
    (f.merge.map (·.node.row)).map f.hierarchy.key = f.merge.map (·.node.key) := by
  rw [List.map_map]
  exact List.map_congr_left fun p hp => h.key_row hp

theorem keys_nodup (h : f.ReadOff before fetched) :
    (((f.merge.map (·.node.row)).map f.hierarchy.key).filter (·.1 ≠ "")).Nodup := by
  rw [h.map_key, List.filter_map, List.nodup_iff_pairwise_ne, List.pairwise_map]
  refine (List.pairwise_filter.mpr ?_)
  refine merge_distinct.imp fun hpq hp _ => hpq ?_
  simpa [Node.key] using hp

theorem key_kept (h : f.ReadOff before fetched) {row : Row} (hrow : row ∈ before) :
    f.hierarchy.key row ∈ (f.merge.map (·.node.row)).map f.hierarchy.key := by
  obtain ⟨i, hi⟩ := List.mem_iff_getElem?.mp hrow
  obtain ⟨p, hp, hkey⟩ := exists_key_merge (h.mem_page.mpr ⟨i, row, hi, rfl⟩)
  rw [h.map_key, ← f.hierarchy.key_node (.hit i), ← hkey]
  exact List.mem_map_of_mem hp

/-- If a row has no id, then rows with its origin are among those without an id. -/
theorem countP_filter_id (hstems : ∀ n ∈ nodes, f.hierarchy.Stems before fetched n) {i : Nat}
    {row : Row} (hrow : before[i]? = some row) (hid : (f.hierarchy.key row).1 = "")
    {p : Node → Bool} (hp : ∀ n ∈ nodes, n.origin = .hit i → n.id = "" → p n = true) :
    (nodes.filter p).countP (·.origin = .hit i) = (nodes.map Node.origin).count (.hit i) := by
  rw [List.count_eq_countP, List.countP_map]
  refine (countP_filter_of_imp fun n hn horigin => ?_).trans
    (List.countP_congr fun n _ => by simp)
  have horigin' : n.origin = .hit i := by simpa using horigin
  exact hp n hn horigin' (((hstems n hn).id_eq_of_hit horigin' hrow).trans hid)

/-- A row of the page without an id is placed once: only rows without an id have its origin, and
these are placed as they stand on the page. -/
theorem count_origin (h : f.ReadOff before fetched) {i : Nat} {row : Row}
    (hrow : before[i]? = some row) (hid : (f.hierarchy.key row).1 = "") :
    (f.merge.map (·.node.origin)).count (.hit i) = 1 := by
  have hmerge : ∀ n ∈ f.merge.map Placed.node, f.hierarchy.Stems before fetched n := by
    intro n hn
    obtain ⟨p, hp, rfl⟩ := List.mem_map.mp hn
    exact h.stems_of_mem_merge hp
  have hhits : ∀ n ∈ f.page, n.origin ≠ .fetched := by
    intro n hn
    obtain ⟨j, r, -, rfl⟩ := h.mem_page.mp hn
    exact Origin.noConfusion
  have hlt : i < before.length := (List.getElem?_eq_some_iff.mp hrow).1
  calc (f.merge.map (·.node.origin)).count (.hit i)
      = ((f.merge.map Placed.node).map Node.origin).count (.hit i) := by rw [List.map_map]; rfl
    _ = (bareHits f.merge).countP (·.origin = .hit i) :=
        (countP_filter_id hmerge hrow hid fun n _ horigin hn => by simp [horigin, hn]).symm
    _ = (f.page.filter (·.id = "")).countP (·.origin = .hit i) := by rw [bareHits_merge hhits]
    _ = (f.page.map Node.origin).count (.hit i) :=
        countP_filter_id (fun n hn => h.stems_of_mem_page hn) hrow hid fun n _ _ hn => by simp [hn]
    _ = ((f.hierarchy.page before).map Node.origin).count (.hit i) :=
        (h.page_perm.map Node.origin).count_eq _
    _ = 1 := f.hierarchy.count_origin_page before hlt

theorem origins (h : f.ReadOff before fetched) :
    List.Forall₂ (f.hierarchy.ComesFrom before fetched) (f.merge.map (·.node.origin))
      (f.merge.map (·.node.row)) := by
  rw [List.forall₂_map_left_iff, List.forall₂_map_right_iff, List.forall₂_same]
  exact fun p hp => (h.stems_of_mem_merge hp).comesFrom

/-- A merge completes the table of its page. -/
theorem completes {t : Table} (hrows : t.rows ≠ []) (h : f.ReadOff t.rows fetched) :
    f.hierarchy.Completes fetched t (Engine.withMerged f.hierarchy t f.merge) := by
  have hcolumn : (t.rows = [] ∨ ∃ c ∈ t.columns, c.name = f.hierarchy.isExpanded) ↔
      t.columns.any (·.name == f.hierarchy.isExpanded) = true := by
    simp [hrows]
  unfold Engine.withMerged Table.addColumn
  by_cases hany : t.columns.any (·.name == f.hierarchy.isExpanded) = true
  · rw [if_pos hany]
    exact ⟨h.keys_nodup, fun row hrow _ => h.key_kept hrow,
      ⟨_, h.origins, fun i row => h.count_origin⟩, rfl, rfl, rfl, rfl,
      (if_pos (hcolumn.mpr hany)).symm⟩
  · rw [if_neg hany]
    exact ⟨h.keys_nodup, fun row hrow _ => h.key_kept hrow,
      ⟨_, h.origins, fun i row => h.count_origin⟩, rfl, rfl, rfl, rfl,
      (if_neg fun hcolumn' => hany (hcolumn.mp hcolumn')).symm⟩

end ReadOff

end Family

/-! ### Keys that are read -/

namespace Family

theorem forall_placed_parents {f : Family} {P : Row → Prop} :
    (∀ row ∈ (f.page.filterMap f.parentOf?).map Node.row, P row) ↔
      ∀ n ∈ f.page, ∀ p, f.parentOf? n = some p → P p.row := by
  simp only [List.forall_mem_map, List.mem_filterMap]
  exact ⟨fun h n hn p hp => h p ⟨n, hn, hp⟩, fun h p ⟨n, hn, hp⟩ => h n hn p hp⟩

theorem legible_of_requireKeys {f : Family} (h : f.requireKeys = .ok ()) :
    ∀ n ∈ f.page, ∀ p, f.parentOf? n = some p → f.hierarchy.IsLegible p.row := by
  obtain ⟨ids, -, hread⟩ := bind_eq_ok h
  obtain ⟨keys, hkeys, -⟩ := bind_eq_ok hread
  exact forall_placed_parents.mp (Hierarchy.hasText_of_texts hkeys)

/-- The keys that a merge needs can be read if those of the page and of the parents can. -/
theorem requireKeys_cases (f : Family) :
    f.requireKeys = .ok () ∨ f.requireKeys = .error .unwritable ∧
      ∃ n ∈ f.page ++ f.parents, ¬ f.hierarchy.IsLegible n.row := by
  unfold requireKeys
  rcases Hierarchy.texts_cases [f.hierarchy.id] (f.parents.map Node.row) with
    ⟨-, ids, hids⟩ | ⟨⟨row, hrow, name, hname, hnot⟩, hids⟩
  · rw [hids]
    rcases Hierarchy.texts_cases f.hierarchy.keyNames ((f.page.filterMap f.parentOf?).map Node.row)
      with ⟨-, keys, hkeys⟩ | ⟨⟨row, hrow, name, hname, hnot⟩, hkeys⟩
    · left
      simp only [bind, Except.bind, hkeys]
      rfl
    · refine .inr ⟨by simp only [bind, Except.bind, hkeys], ?_⟩
      obtain ⟨p, hp, rfl⟩ := List.mem_map.mp hrow
      obtain ⟨n, hn, hparent⟩ := List.mem_filterMap.mp hp
      obtain ⟨-, hfind | ⟨-, q, hfind, rfl⟩⟩ := parentOf?_eq_some hparent
      · exact ⟨p, List.mem_append_left _ (List.mem_of_find?_eq_some hfind),
          fun hlegible => hnot (hlegible name hname)⟩
      · exact ⟨q, List.mem_append_right _ (List.mem_of_find?_eq_some hfind),
          fun hlegible => hnot (hlegible.markExpanded name hname)⟩
  · obtain ⟨p, hp, rfl⟩ := List.mem_map.mp hrow
    rw [List.mem_singleton.mp hname] at hnot
    refine .inr ⟨?_, p, List.mem_append_right _ hp,
      fun hlegible => hnot (Hierarchy.isLegible_iff.mp hlegible).1⟩
    rw [hids]
    rfl

end Family

/-! ### Expansions -/

namespace Engine

variable {σ : Type} {x : Engine σ} {e : Expansion} {rows : List Row} {page known : List Node}
  {exchanges : List Exchange}

theorem ParentStep.fetched_of_ok {found : Option (Nat × List Node)}
    (h : x.ParentStep e page exchanges (.ok found)) :
    ∀ p ∈ foundParents found, ∃ row ∈ exchanges.flatMap Exchange.rows,
      p = x.hierarchy.node .fetched row := by
  cases h with
  | skipped off => simp [foundParents]
  | complete on nil => simp [foundParents]
  | @fetched r t on ne_nil request =>
      intro p hp
      obtain ⟨row, hrow, rfl⟩ := List.mem_map.mp hp
      exact ⟨row, by simpa [Exchange.answered, Exchange.rows] using hrow, rfl⟩

theorem ChildStep.fetched_of_ok {children : Named (List Node)}
    (h : x.ChildStep e known exchanges (.ok children)) {parent : String} {nodes : List Node}
    (hnodes : children.get? parent = some nodes) :
    ∀ c ∈ nodes, ∃ row ∈ exchanges.flatMap Exchange.rows, c = x.hierarchy.node .fetched row := by
  obtain ⟨on, hparent⟩ := h.mem_parentIds hnodes
  obtain ⟨query, t, -, hex, hget⟩ := h.exists_answer on hparent
  obtain rfl := Option.some.inj (hnodes.symm.trans hget)
  intro c hc
  obtain ⟨row, hrow, rfl⟩ := List.mem_map.mp ((eraseDupsBy_sublist _ _).subset hc)
  exact ⟨row, List.mem_flatMap_of_mem hex hrow, rfl⟩

theorem Gathered.hierarchy_eq {f : Family} (h : x.Gathered rows e exchanges (.ok f)) :
    f.hierarchy = x.hierarchy := by
  cases h.supplied_of_ok with
  | complete parents rest => rfl

theorem Gathered.expansion_eq {f : Family} (h : x.Gathered rows e exchanges (.ok f)) :
    f.expansion = e := by
  cases h.supplied_of_ok with
  | complete parents rest => rfl

/-- What is supplied for a page is read off it and the rows of the exchanges. -/
theorem Supplied.readOff {f : Family} (h : x.Supplied (x.pageOf rows) e exchanges (.ok f)) :
    f.ReadOff rows (exchanges.flatMap Exchange.rows) := by
  cases h with
  | @complete xs ys found children parents rest =>
      refine ⟨reconcile_perm _, fun p hp => ?_, fun parent c hc => ?_⟩
      · obtain ⟨row, hrow, hnode⟩ := parents.fetched_of_ok p hp
        exact ⟨row, by rw [List.flatMap_append]; exact List.mem_append_left _ hrow, hnode⟩
      · have hc' : c ∈ (children.get? parent.id).getD [] := hc
        cases hnodes : children.get? parent.id with
        | none =>
            rw [hnodes] at hc'
            cases hc'
        | some nodes =>
            rw [hnodes] at hc'
            obtain ⟨row, hrow, hnode⟩ := rest.fetched_of_ok hnodes c hc'
            exact ⟨row, by rw [List.flatMap_append]; exact List.mem_append_right _ hrow, hnode⟩

/-- The family that an expansion gathers is read off the page and the rows of its exchanges. -/
theorem Gathered.readOff {f : Family} (h : x.Gathered rows e exchanges (.ok f)) :
    f.ReadOff rows (exchanges.flatMap Exchange.rows) := h.supplied_of_ok.readOff

theorem rows_withMerged (h : Hierarchy) (t : Table) (placed : List Placed) :
    (withMerged h t placed).rows = placed.map (·.node.row) := by
  simp only [withMerged, Table.addColumn]
  split <;> rfl

/-- Parents that were found came with the answers. -/
theorem ParentStep.row_mem {found : Option (Nat × List Node)}
    (h : x.ParentStep e page exchanges (.ok found)) {n : Node} (hn : n ∈ foundParents found) :
    n.row ∈ exchanges.flatMap Exchange.rows := by
  obtain ⟨row, hrow, rfl⟩ := h.fetched_of_ok n hn
  exact hrow

/-- If all fetches are answered, then only a key that cannot be read keeps an expansion from a
family for its page. -/
theorem Supplied.cases_of_answered (hplain : x.hierarchy.Plain) {result : Except Failure Family}
    (hpage : ∀ n ∈ page, x.hierarchy.IsLegible n.row) (h : x.Supplied page e exchanges result)
    (hanswered : Answered exchanges) :
    (∃ f, result.bind (fun f => f.requireKeys.map fun _ => f) = .ok f) ∨
      result.bind (fun f => f.requireKeys.map fun _ => f) = .error .unwritable ∧
        ∃ row ∈ exchanges.flatMap Exchange.rows, ¬ x.hierarchy.IsLegible row := by
  cases h with
  | @complete xs ys found children parents rest =>
      rcases (x.familyOf page e (foundParents found) children).requireKeys_cases with
        hkeys | ⟨hkeys, n, hn, hnot⟩
      · exact .inl ⟨_, by simp only [Except.bind, hkeys]; rfl⟩
      · refine .inr ⟨by simp only [Except.bind, hkeys]; rfl, n.row, ?_, hnot⟩
        have hfound := (List.mem_append.mp hn).resolve_left fun hmem => hnot (hpage n hmem)
        rw [List.flatMap_append]
        exact List.mem_append_left _ (parents.row_mem hfound)
  | noParents parents =>
      rcases parents.raised_or_refused with hraised | ⟨-, hne, hrefused⟩
      · exact absurd hanswered (not_answered_of_raised hraised)
      · rw [parentRequest_eq hplain hne] at hrefused
        cases hrefused
  | @noChildren xs ys found cause parents rest =>
      rcases rest.raised_or_refused with ⟨ex, hex, f, hf, -⟩ | ⟨rfl, -, hrefused⟩ |
        ⟨-, rfl, ex, hex, row, hrow, hnot⟩
      · exact absurd hanswered
          (not_answered_of_raised ⟨ex, List.mem_append_right _ hex, f, hf, rfl⟩)
      · rcases requestChildren_cases hplain e (page ++ foundParents found) with
          hok | ⟨herror, n, hn, hnot⟩
        · rw [hrefused] at hok
          cases hok
        · obtain rfl := Except.error.inj (hrefused.symm.trans herror)
          refine .inr ⟨rfl, n.row, ?_, hnot⟩
          have hfound := (List.mem_append.mp hn).resolve_left fun hmem => hnot (hpage n hmem)
          rw [List.append_nil]
          exact parents.row_mem hfound
      · exact .inr ⟨rfl, row, List.mem_flatMap_of_mem (List.mem_append_right _ hex) hrow, hnot⟩

/-- If all fetches are answered, then a family is gathered unless a key cannot be read or there is
no room for the levels of the page. -/
theorem Gathered.cases_of_answered (hplain : x.hierarchy.Plain) {result : Except Failure Family}
    (h : x.Gathered rows e exchanges result) (hanswered : Answered exchanges) :
    (∃ f, result = .ok f) ∨
      result = .error .unwritable ∧
        (∃ row ∈ rows ++ exchanges.flatMap Exchange.rows, ¬ x.hierarchy.IsLegible row) ∨
      result = .error (.tooDeep .calls) ∧ ¬ Shallow x.room (x.hierarchy.page rows) := by
  cases h with
  | disordered refusal =>
      rcases x.hierarchy.arrange_cases x.room rows with
        ⟨-, hok⟩ | ⟨⟨row, hrow, hnot⟩, herror⟩ | ⟨-, hdeep, herror⟩
      · rw [refusal] at hok
        cases hok
      · obtain rfl := Except.error.inj (refusal.symm.trans herror)
        exact .inr (.inl ⟨rfl, row, List.mem_append_left _ hrow, hnot⟩)
      · obtain rfl := Except.error.inj (refusal.symm.trans herror)
        exact .inr (.inr ⟨rfl, hdeep⟩)
  | supplied arranged supplied =>
      have hread := Hierarchy.legible_of_arrange arranged
      rcases supplied.cases_of_answered hplain hread hanswered with
        hok | ⟨herror, row, hrow, hnot⟩
      · exact .inl hok
      · exact .inr (.inl ⟨herror, row, List.mem_append_right _ hrow, hnot⟩)

/-- An expansion whose fetches are answered completes a table that has ids. It fails only if a row
of the page or of a reply cannot be read, or if there is no room for the levels of the page; and it
does fail if a row of the page cannot be read. -/
theorem expand_completes (x : Engine σ) (hplain : x.hierarchy.Plain) (t : Table) (e : Expansion)
    (s : σ) (hmode : e.mode ≠ .none) (hid : t.hasColumn x.hierarchy.id = true)
    (hanswered : ∀ ex ∈ x.exchanges t e s, ∃ reply, ex.answer = .ok reply) :
    (∃ after, (x.expand t e s).1.outcome = .ok after ∧
      x.hierarchy.Completes ((x.exchanges t e s).flatMap Exchange.rows) t after ∧
      ∀ row ∈ t.rows, x.hierarchy.IsLegible row) ∨
    (x.expand t e s).1.outcome = .error .unwritable ∧
      (∃ row ∈ t.rows ++ (x.exchanges t e s).flatMap Exchange.rows,
        ¬ x.hierarchy.IsLegible row) ∨
    (x.expand t e s).1.outcome = .error (.tooDeep .calls) ∧
      ¬ Shallow x.room (x.hierarchy.page t.rows) := by
  rcases x.expand_cases t e s with ⟨hidle, -, hok⟩ | ⟨f, hbusy, hgathered, hok⟩ |
    ⟨cause, -, hgathered, herror⟩
  · have hrows : t.rows = [] := by
      rcases hidle with hnone | hrows | hno
      · exact absurd hnone hmode
      · exact hrows
      · rw [hid] at hno
        cases hno
    refine .inl ⟨t, hok, Hierarchy.completes_self_of_rows_nil hrows _, ?_⟩
    rw [hrows]
    exact List.forall_mem_nil _
  · have hcompletes := hgathered.readOff.completes fun hrows => hbusy (.inr (.inl hrows))
    rw [hgathered.hierarchy_eq] at hcompletes
    exact .inl ⟨_, hok, hcompletes, (Hierarchy.arrange_eq_ok hgathered.of_ok.1).1⟩
  · rw [herror]
    rcases hgathered.cases_of_answered hplain hanswered with ⟨f, hf⟩ | ⟨heq, hrow⟩ | ⟨heq, hdeep⟩
    · cases hf
    · rw [Except.error.inj heq]
      exact .inr (.inl ⟨rfl, hrow⟩)
    · rw [Except.error.inj heq]
      exact .inr (.inr ⟨rfl, hdeep⟩)

/-- A child on a page without its parent, which the source answers with. -/
def orphan : Table where
  columns := [⟨"id", .text⟩, ⟨"parent_id", .text⟩]
  rows := [[("id", .text "c"), ("parent_id", .text "p")]]

def orphanage : Engine Unit where
  source := .ofFunction fun _ => .ok { rows := [[("id", .text "p"), ("is_parent", .bool true)]] }

theorem orphanage_answers (t : Table) (e : Expansion) :
    ∀ ex ∈ orphanage.exchanges t e (), ∃ reply, ex.answer = .ok reply := by
  intro ex hex
  obtain ⟨_, hs⟩ := orphanage.genuine_of_mem_exchanges hex
  exact ⟨_, hs.symm⟩

theorem orphanage_expand_completes :
    ∃ after, (orphanage.expand orphan { mode := .both } ()).1.outcome = .ok after ∧
      orphanage.hierarchy.Completes
        ((orphanage.exchanges orphan { mode := .both } ()).flatMap Exchange.rows) orphan after ∧
      after.columns = orphan.columns ++ [⟨"is_expanded", .boolean⟩] ∧
      after.rows.map (Row.get · "is_expanded") = [.bool true, .null] := by
  have hplain : orphanage.hierarchy.Plain := ⟨by decide, by decide⟩
  rcases expand_completes orphanage hplain orphan { mode := .both } () (by decide) (by decide)
    (orphanage_answers orphan { mode := .both }) with
    ⟨after, hafter, hcompletes, -⟩ | ⟨herror, -⟩ | ⟨herror, -⟩
  · refine ⟨after, hafter, hcompletes, hcompletes.columns, ?_⟩
    rw [← Except.ok.inj hafter]
    rfl
  · cases herror
  · cases herror

/-- The table is not completed, although every fetch is answered. -/
theorem orphanage_refuses_dynasty :
    (∀ ex ∈ orphanage.exchanges dynasty { mode := .both } (), ∃ reply, ex.answer = .ok reply) ∧
      ¬ ∃ after, (orphanage.expand dynasty { mode := .both } ()).1.outcome = .ok after := by
  refine ⟨orphanage_answers dynasty { mode := .both }, ?_⟩
  have hbusy : ¬ orphanage.Idle dynasty { mode := .both } :=
    orphanage.not_idle (by decide) dynasty_rows_ne_nil (by decide)
  rw [(orphanage.expand_of_disordered hbusy arrange_dynasty ()).1]
  rintro ⟨after, hafter⟩
  cases hafter

end Engine

end CriteriaSearch
