import CriteriaSearch.Proofs.Page.Blocks

/-!
# Expansions of pages of two levels

If the rows of a page are roots and their children, and the source answers with roots and children
too, then an expansion that fetches children lays them out in blocks.
-/

namespace CriteriaSearch

namespace Hierarchy

/-- Rows with distinct ids, each of which is a root or a child that is not flagged as a parent and
whose parent is not the id of a child. -/
structure IsTiered (h : Hierarchy) (rows : List Row) : Prop where
  id_ne : ∀ row ∈ rows, cellText row h.id ≠ ""
  ids_nodup : (rows.map (cellText · h.id)).Nodup
  root_or_child : ∀ row ∈ rows, cellText row h.parent = "" ∨
    (Row.get row h.isParent).isFlag = false ∧
      ∀ other ∈ rows, cellText other h.parent ≠ "" → cellText other h.id ≠ cellText row h.parent

variable {h : Hierarchy} {rows : List Row}

theorem IsTiered.acyclic (hrows : h.IsTiered rows) :
    Reconcile.Acyclic Node.id Node.parent (h.page rows) := by
  -- The ids of children rank above all others.
  refine Reconcile.Acyclic.of_rank (fun id =>
    if ∃ row ∈ rows, cellText row h.parent ≠ "" ∧ cellText row h.id = id then 1 else 0) ?_
  intro n hn _ hparent
  obtain ⟨i, row, hrow, rfl⟩ := mem_page.mp hn
  have hmem := List.mem_of_getElem? hrow
  have hself : ∃ r ∈ rows, cellText r h.parent ≠ "" ∧
      cellText r h.id = (h.node (.hit i) row).id := ⟨row, hmem, hparent, rfl⟩
  have hnone : ¬ ∃ r ∈ rows, cellText r h.parent ≠ "" ∧
      cellText r h.id = (h.node (.hit i) row).parent := by
    rintro ⟨r, hr, hne, hid⟩
    rcases hrows.root_or_child row hmem with hroot | ⟨-, hother⟩
    · exact hparent hroot
    · exact hother r hr hne hid
  rw [if_neg hnone, if_pos hself]
  exact Nat.one_pos

end Hierarchy

namespace Engine

variable {σ : Type} {x : Engine σ} {e : Expansion} {rows : List Row}

theorem Gathered.tiered {exchanges : List Exchange} {f : Family}
    (h : x.Gathered rows e exchanges (.ok f)) (hnames : x.hierarchy.names.Nodup)
    (hrows : x.hierarchy.IsTiered rows) (hmode : e.includesChildren = true)
    (hparents : ∀ q ∈ f.parents, q.id ∈ Supplement.missingParents f.page ∧ q.parent = "")
    (hchildren : ∀ p cs, f.children.get? p = some cs →
      ∀ c ∈ cs, c.id ≠ "" ∧ c.id ≠ p ∧ c.parent = p ∧ c.isParent = false) : f.Tiered := by
  have hlineal := h.lineal (x.hierarchy.id_ne_isExpanded hnames) hrows.id_ne hrows.acyclic
  have hread := h.readOff
  have hfetched : ∀ parent, ∀ c ∈ f.fetchedChildren parent,
      c.id ≠ "" ∧ c.parent = parent.id ∧ c.isParent = false := by
    intro parent c hc
    have hc' : c ∈ (f.children.get? parent.id).getD [] := hc
    cases hget : f.children.get? parent.id with
    | none =>
        rw [hget] at hc'
        cases hc'
    | some cs =>
        rw [hget] at hc'
        obtain ⟨hid, -, hparent, hflag⟩ := hchildren _ cs hget c hc'
        exact ⟨hid, hparent, hflag⟩
  refine ⟨hlineal, ?_, ?_, ?_, ?_, ?_, ?_⟩
  · rw [h.expansion_eq, hmode]
  · rw [(hread.page_perm.map Node.id).nodup_iff, h.hierarchy_eq,
      x.hierarchy.map_page fun _ _ => rfl]
    exact hrows.ids_nodup
  · intro n hn hflag
    obtain ⟨i, row, hrow, rfl⟩ := hread.mem_page.mp hn
    rw [h.hierarchy_eq] at hflag ⊢
    rcases hrows.root_or_child row (List.mem_of_getElem? hrow) with hroot | ⟨hnot, -⟩
    · exact hroot
    · have hflag' : (Row.get row x.hierarchy.isParent).isFlag = true := hflag
      rw [hnot] at hflag'
      cases hflag'
  · intro q hq
    obtain ⟨row, -, rfl⟩ := hread.parent_fetched q hq
    rw [(f.hierarchy.expanded_node (h.hierarchy_eq ▸ hnames) row).2.1]
    exact (hparents _ hq).2
  · intro q hq
    obtain ⟨-, hne, habsent⟩ := Supplement.mem_missingParents.mp (hparents q hq).1
    exact ⟨hne, habsent⟩
  · intro parent c hc
    obtain ⟨row, -, rfl⟩ := hread.child_fetched parent c hc
    obtain ⟨hid, hparent, hflag⟩ := f.hierarchy.expanded_node (h.hierarchy_eq ▸ hnames) row
    rw [hid, hparent, hflag]
    exact hfetched parent _ hc

end Engine

/-! ### Rows instead of nodes -/

namespace Hierarchy

/-- Rows without those whose key has occurred before. -/
def distinct (h : Hierarchy) (rows : List Row) : List Row :=
  rows.eraseDupsBy fun a b => h.key a == h.key b

theorem key_markExpanded (h : Hierarchy) (hnames : h.names.Nodup) (row : Row) :
    h.key (h.markExpanded row) = h.key row := by
  obtain ⟨hid, hparent, -⟩ := h.expanded_node hnames row
  exact Prod.ext hid hparent

theorem distinct_nodes (h : Hierarchy) (rows : List Row) (origin : Origin) :
    Supplement.distinct (rows.map (h.node origin)) = (h.distinct rows).map (h.node origin) :=
  (map_eraseDupsBy fun row _ => h.key_node origin row).symm

theorem map_row_filter_page (h : Hierarchy) (rows : List Row) (p : String) :
    ((h.page rows).filter (·.parent == p)).map Node.row =
      rows.filter (cellText · h.parent == p) := by
  have hrows : (h.page rows).map Node.row = rows.map fun row => row :=
    h.map_page (fun _ _ => rfl) rows
  rw [List.map_id'] at hrows
  conv_rhs => rw [← hrows]
  rw [List.filter_map]
  refine congrArg (List.map Node.row) (List.filter_congr fun n hn => ?_)
  obtain ⟨i, row, -, rfl⟩ := mem_page.mp hn
  rfl

/-- Marked copies are told apart as the rows are that they are made of. -/
theorem distinct_append_markExpanded (h : Hierarchy) (hnames : h.names.Nodup)
    (rows fetched : List Row) :
    h.distinct (rows ++ (h.distinct fetched).map h.markExpanded) =
      h.distinct (rows ++ fetched.map h.markExpanded) := by
  have hmarked : (h.distinct fetched).map h.markExpanded =
      h.distinct (fetched.map h.markExpanded) :=
    map_eraseDupsBy fun row _ => h.key_markExpanded hnames row
  rw [hmarked]
  exact eraseDupsBy_append_eraseDupsBy h.key rows (fetched.map h.markExpanded)

end Hierarchy

namespace Family

variable {f : Family} {before fetched : List Row}

theorem ReadOff.isFlag_row (h : f.ReadOff before fetched) {p : Placed} (hp : p ∈ f.merge) :
    (Row.get p.node.row f.hierarchy.isParent).isFlag = p.node.isParent := by
  rw [(h.stems_of_mem_merge hp).node_eq]
  rfl

/-- The rows of the children that stand behind a parent. -/
theorem map_row_brood (hnames : f.hierarchy.names.Nodup) {p : Node} {reply : List Row}
    (hpage : f.page.filter (·.parent == p.id) =
      (f.hierarchy.page before).filter (·.parent == p.id))
    (hreply : f.fetchedChildren p = Supplement.distinct (reply.map (f.hierarchy.node .fetched))) :
    (f.brood p).map Node.row = f.hierarchy.distinct
      (before.filter (Hierarchy.cellText · f.hierarchy.parent == p.id) ++
        reply.map f.hierarchy.markExpanded) := by
  have hkeys : ∀ n ∈ (f.hierarchy.page before).filter (·.parent == p.id) ++
      (f.fetchedChildren p).map f.hierarchy.expanded, f.hierarchy.key n.row = n.key := by
    intro n hn
    rcases List.mem_append.mp hn with hn | hn
    · obtain ⟨i, row, -, rfl⟩ := Hierarchy.mem_page.mp (List.mem_of_mem_filter hn)
      rfl
    · obtain ⟨c, -, rfl⟩ := List.mem_map.mp hn
      rfl
  have hbefore : ((f.hierarchy.page before).filter (·.parent == p.id)).map Node.row =
      before.filter (Hierarchy.cellText · f.hierarchy.parent == p.id) :=
    f.hierarchy.map_row_filter_page before p.id
  have hfetched : ((f.fetchedChildren p).map f.hierarchy.expanded).map Node.row =
      (f.hierarchy.distinct reply).map f.hierarchy.markExpanded := by
    rw [hreply, Hierarchy.distinct_nodes, List.map_map, List.map_map]
    rfl
  rw [brood, hpage, Supplement.distinct, map_eraseDupsBy hkeys, List.map_append, hbefore, hfetched]
  exact f.hierarchy.distinct_append_markExpanded hnames _ reply

/-- A row that is flagged as a parent is one whose children were asked for. -/
theorem Tiered.mem_parentIds (hf : f.Tiered) (hread : f.ReadOff before fetched)
    (hnames : f.hierarchy.names.Nodup) {p : Node} (hp : p ∈ f.merge.map Placed.node)
    (hflag : p.isParent = true) : p.id ∈ Supplement.parentIds (f.page ++ f.parents) := by
  have hsource := (hf.grouped (List.append_nil f.page).symm).source p hp
  have hid := (hf.root_of_source (List.Subset.refl _) hsource hflag).2.1
  cases hsource with
  | turned mem =>
      exact Supplement.mem_parentIds.mpr ⟨p, List.mem_append_left _ mem, hflag, hid, rfl⟩
  | @parent q mem eq =>
      obtain ⟨row, -, rfl⟩ := hread.parent_fetched q mem
      obtain ⟨hsame, -, hparent⟩ := f.hierarchy.expanded_node hnames row
      rw [eq, hsame] at hid ⊢
      rw [eq, hparent] at hflag
      exact Supplement.mem_parentIds.mpr ⟨_, List.mem_append_right _ mem, hflag, hid, rfl⟩
  | child mem flag under unflagged =>
      rw [unflagged] at hflag
      cases hflag

/-- In a merge the rows that name a parent are the block behind it. -/
theorem Tiered.block_merge (hf : f.Tiered) (hread : f.ReadOff before fetched)
    {pre post : List Row} {row : Row} (hsplit : f.merge.map (·.node.row) = pre ++ row :: post)
    (hflag : (Row.get row f.hierarchy.isParent).isFlag = true) :
    ∃ p ∈ f.merge.map Placed.node, p.isParent = true ∧
      p.id = Hierarchy.cellText row f.hierarchy.id ∧ (f.brood p).map Node.row <+: post ∧
      (f.merge.map (·.node.row)).filter (Hierarchy.cellText · f.hierarchy.parent == p.id) =
        (f.brood p).map Node.row := by
  have hrows : f.merge.map (·.node.row) = (f.merge.map Placed.node).map Node.row := by
    rw [List.map_map]
    rfl
  rw [hrows] at hsplit
  obtain ⟨front, rest, hnodes, -, hrest⟩ := List.map_eq_append_iff.mp hsplit
  obtain ⟨p, back, rfl, rfl, rfl⟩ := List.map_eq_cons_iff.mp hrest
  have hp : p ∈ f.merge.map Placed.node := hnodes ▸ List.mem_append_right front List.mem_cons_self
  obtain ⟨q, hq, rfl⟩ := List.mem_map.mp hp
  rw [hread.isFlag_row hq] at hflag
  obtain ⟨hbehind, hall⟩ := hf.brood_merge hnodes hflag
  refine ⟨q.node, hp, hflag, (congrArg Prod.fst (hread.key_row hq)).symm,
    hbehind.map Node.row, ?_⟩
  rw [← hall, hrows, List.filter_map]
  refine congrArg (List.map Node.row) (List.filter_congr fun n hn => ?_)
  obtain ⟨r, hr, rfl⟩ := List.mem_map.mp hn
  have hparent : Hierarchy.cellText r.node.row f.hierarchy.parent = r.node.parent :=
    congrArg Prod.snd (hread.key_row hr)
  rw [Function.comp_apply, hparent]

end Family

namespace Engine

variable {σ : Type}

/-- In an expanded page of two levels the rows that name a row which is flagged as a parent stand in
one block behind it: first those of the page in its order, then those in the reply for it, without
those whose key has occurred. -/
theorem expand_groups_children (x : Engine σ) (t : Table) (e : Expansion) (s : σ)
    (hnames : x.hierarchy.names.Nodup) (hrows : x.hierarchy.IsTiered t.rows)
    (hmode : e.includesChildren = true)
    (hparents : ∀ reply, x.ParentReply (x.pageOf t.rows) (x.exchanges t e s) reply →
      ∀ row ∈ reply.rows,
        Hierarchy.cellText row x.hierarchy.id ∈ Supplement.missingParents (x.pageOf t.rows) ∧
          Hierarchy.cellText row x.hierarchy.parent = "")
    (hchildren : ∀ p reply, x.ChildReply e (x.exchanges t e s) p reply → ∀ row ∈ reply.rows,
      Hierarchy.cellText row x.hierarchy.id ≠ "" ∧ Hierarchy.cellText row x.hierarchy.id ≠ p ∧
        Hierarchy.cellText row x.hierarchy.parent = p ∧
        (Row.get row x.hierarchy.isParent).isFlag = false)
    {after : Table} (hok : (x.expand t e s).1.outcome = .ok after) :
    ∀ pre row post, after.rows = pre ++ row :: post →
      (Row.get row x.hierarchy.isParent).isFlag = true →
      ∃ reply, x.ChildReply e (x.exchanges t e s) (Hierarchy.cellText row x.hierarchy.id) reply ∧
        ∃ block, block = x.hierarchy.distinct
            (t.rows.filter (Hierarchy.cellText · x.hierarchy.parent ==
                Hierarchy.cellText row x.hierarchy.id) ++
              reply.rows.map x.hierarchy.markExpanded) ∧
          block <+: post ∧
          after.rows.filter (Hierarchy.cellText · x.hierarchy.parent ==
            Hierarchy.cellText row x.hierarchy.id) = block := by
  have hsome : e.mode ≠ .none := by
    intro hnone
    simp [Expansion.includesChildren, hnone] at hmode
  rcases x.expand_cases t e s with ⟨hidle, -, hsame⟩ | ⟨f, -, hgathered, hmerged⟩ |
    ⟨cause, -, -, herror⟩
  · obtain rfl := Except.ok.inj (hsame.symm.trans hok)
    rw [rows_eq_nil_of_idle hsome hrows.id_ne hidle]
    simp
  · obtain rfl := Except.ok.inj (hmerged.symm.trans hok)
    have hsupplied := hgathered.supplied_of_ok
    have hread := hgathered.readOff
    have hpage := hgathered.page_eq
    have hf := hgathered.tiered hnames hrows hmode (fun q hq => ?_) (fun p cs hget => ?_)
    · rw [rows_withMerged]
      intro pre row post hsplit hflag
      have hhierarchy := hgathered.hierarchy_eq
      rw [← hhierarchy] at hflag hnames ⊢
      obtain ⟨p, hp, hparent, hid, hbehind, hall⟩ := hf.block_merge hread hsplit hflag
      obtain ⟨reply, hreply, hget⟩ :=
        hsupplied.exists_childReply hmode (hf.mem_parentIds hread hnames hp hparent)
      have hfetched : f.fetchedChildren p =
          Supplement.distinct (reply.rows.map (f.hierarchy.node .fetched)) := by
        rw [Family.fetchedChildren, hget, hhierarchy]
        rfl
      have hordered : f.page.filter (·.parent == p.id) =
          (f.hierarchy.page t.rows).filter (·.parent == p.id) := by
        rw [hpage, reconcile_filter_parent hrows.acyclic, hhierarchy]
      have hrow := Family.map_row_brood hnames hordered hfetched
      rw [hid] at hreply hall hrow
      exact ⟨reply, hreply, _, hrow, hbehind, hall⟩
    · obtain ⟨reply, hreply, hq⟩ := hsupplied.mem_parents_iff.mp hq
      obtain ⟨row, hrow, rfl⟩ := List.mem_map.mp hq
      rw [hpage]
      exact hparents reply hreply row hrow
    · obtain ⟨reply, hreply, rfl⟩ := hsupplied.childReply hget
      intro c hc
      obtain ⟨row, hrow, rfl⟩ := List.mem_map.mp ((eraseDupsBy_sublist _ _).subset hc)
      exact hchildren p reply hreply row hrow
  · rw [herror] at hok
    cases hok

def lodger : Row := [("id", .text "C"), ("parent_id", .text "P")]

def landlord : Row := [("id", .text "P"), ("is_parent", .bool true)]

def guest : Row := [("id", .text "D"), ("parent_id", .text "P")]

def visitor : Row := [("id", .text "B"), ("parent_id", .text "P")]

/-- A child before its parent, which has more of them. -/
def porch : Table where
  columns := [⟨"id", .text⟩, ⟨"parent_id", .text⟩, ⟨"is_parent", .boolean⟩]
  rows := [lodger, landlord]

/-- A source that finds two children, one of them twice. -/
def boardingHouse : Engine Unit where
  source := .ofFunction fun _ => .ok { rows := [guest, visitor, guest] }

theorem isTiered_porch : boardingHouse.hierarchy.IsTiered porch.rows := by
  refine ⟨?_, by decide, ?_⟩
  · simp only [porch, List.forall_mem_cons]
    decide
  · simp only [porch, List.forall_mem_cons]
    exact ⟨.inr (by decide), .inl (by decide), List.forall_mem_nil _⟩

theorem exchanges_porch : boardingHouse.exchanges porch { mode := .child } () =
    [.answered (boardingHouse.childrenFetch { mode := .child } "P" ["C"])
      { rows := [guest, visitor, guest] }] := rfl

theorem boardingHouse_groups_children :
    ∃ after, (boardingHouse.expand porch { mode := .child } ()).1.outcome = .ok after ∧
      after.rows = [landlord, lodger, boardingHouse.hierarchy.markExpanded guest,
        boardingHouse.hierarchy.markExpanded visitor] ∧
      ∀ pre row post, after.rows = pre ++ row :: post →
        (Row.get row boardingHouse.hierarchy.isParent).isFlag = true →
        ∃ reply, boardingHouse.ChildReply { mode := .child }
            (boardingHouse.exchanges porch { mode := .child } ())
            (Hierarchy.cellText row boardingHouse.hierarchy.id) reply ∧
          ∃ block, block = boardingHouse.hierarchy.distinct
              (porch.rows.filter (Hierarchy.cellText · boardingHouse.hierarchy.parent ==
                  Hierarchy.cellText row boardingHouse.hierarchy.id) ++
                reply.rows.map boardingHouse.hierarchy.markExpanded) ∧
            block <+: post ∧
            after.rows.filter (Hierarchy.cellText · boardingHouse.hierarchy.parent ==
              Hierarchy.cellText row boardingHouse.hierarchy.id) = block := by
  have hok : ∃ after, (boardingHouse.expand porch { mode := .child } ()).1.outcome = .ok after ∧
      after.rows = [landlord, lodger, boardingHouse.hierarchy.markExpanded guest,
        boardingHouse.hierarchy.markExpanded visitor] := ⟨_, rfl, rfl⟩
  obtain ⟨after, hafter, hrows⟩ := hok
  have hplain : boardingHouse.hierarchy.Plain := ⟨by decide, by decide⟩
  have hquery : Query.compile boardingHouse.settings (Supplement.childCriteria
      boardingHouse.hierarchy [boardingHouse.hierarchy.node (.hit 0) lodger] "P") =
      .ok (boardingHouse.childrenFetch { mode := .child } "P" ["C"]).query :=
    Supplement.compile_childCriteria _ hplain _ _
  refine ⟨after, hafter, hrows, expand_groups_children boardingHouse porch { mode := .child } ()
    (by decide) isTiered_porch (by decide) ?_ ?_ hafter⟩
  · rintro reply ⟨r, hr, hmem⟩
    rw [exchanges_porch] at hmem
    obtain ⟨rfl, -⟩ := Exchange.mk.inj (List.mem_singleton.mp hmem)
    cases offset_of_parentRequest hr
  · rintro p reply ⟨known, query', hquery', hmem⟩
    rw [exchanges_porch] at hmem
    obtain ⟨hrequest, hanswer⟩ := Exchange.mk.inj (List.mem_singleton.mp hmem)
    obtain rfl := Except.ok.inj hanswer
    rw [(Request.mk.inj hrequest).1] at hquery'
    obtain rfl := Supplement.parent_eq_of_compile hplain hquery hquery'
    simp only [List.forall_mem_cons]
    decide

end Engine

end CriteriaSearch
