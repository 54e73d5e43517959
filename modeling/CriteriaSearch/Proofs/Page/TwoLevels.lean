import CriteriaSearch.Proofs.Page.Completion
import CriteriaSearch.Proofs.Page.Relatives
import CriteriaSearch.Proofs.Search.Index

/-!
# Merges over an index of two levels

The documents of an index are roots and their children. If the parents and children that a page
lacks are gathered from it, then the merge closes the page: it has the parents of the children on
the page and all children of the roots that are then there. Every document occurs once, and the mark
is on those that were added.
-/

namespace CriteriaSearch

namespace Index

/-- Every document has an id of its own, and is a root or a child of a root. -/
structure TwoLevels (docs : List Row) : Prop where
  ids_nodup : (docs.map docId).Nodup
  id_ne : ∀ d ∈ docs, docId d ≠ ""
  root_or_child : ∀ d ∈ docs, flagged d = true ∧ Hierarchy.cell d "parent_id" = .ok "" ∨
    flagged d = false ∧ ∃ root ∈ docs, flagged root = true ∧ parentId d = docId root

/-- The ids that belong to a page: its own, those of the parents of its children, and those of the
children of the roots among these. -/
inductive Belongs (docs page : List Row) : String → Prop
  | hit {row : Row} (mem : row ∈ page) : Belongs docs page (docId row)
  | parent {row : Row} (mem : row ∈ page) (parent_ne : parentId row ≠ "") :
      Belongs docs page (parentId row)
  | child {d : Row} (mem : d ∈ docs) (parent_ne : parentId d ≠ "")
      (root : ∃ row ∈ page, docId row = parentId d ∨ parentId row = parentId d) :
      Belongs docs page (docId d)

/-- The rows `after` are the documents that belong to a page, each one once, and marked if it was
not on the page. -/
structure Closes (docs page after : List Row) : Prop where
  ids : ∀ id, id ∈ after.map docId ↔ Belongs docs page id
  ids_nodup : (after.map docId).Nodup
  marked : ∀ row ∈ after, ∃ d ∈ docs, docId d = docId row ∧
    if docId d ∈ page.map docId then row = d else ({} : Hierarchy).IsMarkedCopy d row

theorem closes_nil (docs : List Row) : Closes docs [] [] := by
  refine ⟨fun id => ⟨by simp, fun hid => ?_⟩, .nil, by simp⟩
  cases hid with
  | hit mem => cases mem
  | parent mem parent_ne => cases mem
  | child mem parent_ne root =>
      obtain ⟨row, hrow, -⟩ := root
      cases hrow

namespace TwoLevels

variable {docs : List Row}

theorem eq_of_docId (h : TwoLevels docs) {d d' : Row} (hd : d ∈ docs) (hd' : d' ∈ docs)
    (hid : docId d = docId d') : d = d' := List.inj_on_of_nodup_map h.ids_nodup hd hd' hid

theorem parentId_of_cell {d : Row} (h : Hierarchy.cell d "parent_id" = .ok "") :
    parentId d = "" := by
  rw [parentId, Hierarchy.cellText, h]
  rfl

theorem exists_root (h : TwoLevels docs) {d : Row} (hd : d ∈ docs) (hparent : parentId d ≠ "") :
    ∃ root ∈ docs, flagged root = true ∧ parentId root = "" ∧ docId root = parentId d := by
  rcases h.root_or_child d hd with ⟨-, hroot⟩ | ⟨-, root, hroot, hflag, hid⟩
  · exact absurd (parentId_of_cell hroot) hparent
  · rcases h.root_or_child root hroot with ⟨-, htop⟩ | ⟨hnot, -⟩
    · exact ⟨root, hroot, hflag, parentId_of_cell htop, hid.symm⟩
    · rw [hflag] at hnot
      cases hnot

/-- All documents can be read. -/
theorem isLegible (h : TwoLevels docs) {d : Row} (hd : d ∈ docs) :
    ({} : Hierarchy).IsLegible d := by
  refine Hierarchy.isLegible_iff.mpr ⟨Hierarchy.hasText_of_cellText_ne (h.id_ne d hd), ?_⟩
  rcases h.root_or_child d hd with ⟨-, hroot⟩ | ⟨-, root, hroot, -, hid⟩
  · exact ⟨"", hroot⟩
  · refine Hierarchy.hasText_of_cellText_ne ?_
    exact fun hempty => h.id_ne root hroot (hid.symm.trans hempty)

theorem shallow (h : TwoLevels docs) {page : List Row} (hpage : page ⊆ docs) {room : Nat}
    (hroom : 2 ≤ room) : Shallow room (({} : Hierarchy).page page) := by
  refine shallow_of_roots hroom fun p hp c hc hne heq => ?_
  obtain ⟨i, root, hroot, rfl⟩ := Hierarchy.mem_page.mp hp
  obtain ⟨j, d, hd, rfl⟩ := Hierarchy.mem_page.mp hc
  obtain ⟨root', hroot', -, htop, hid⟩ := h.exists_root (hpage (List.mem_of_getElem? hd)) hne
  obtain rfl := h.eq_of_docId hroot' (hpage (List.mem_of_getElem? hroot)) (hid.trans heq)
  exact htop

end TwoLevels

/-! ### Rows and their nodes -/

@[simp] theorem node_id (origin : Origin) (row : Row) :
    (({} : Hierarchy).node origin row).id = docId row := rfl

@[simp] theorem node_parent (origin : Origin) (row : Row) :
    (({} : Hierarchy).node origin row).parent = parentId row := rfl

theorem docId_markExpanded (row : Row) :
    docId (({} : Hierarchy).markExpanded row) = docId row :=
  ({} : Hierarchy).cellText_markExpanded row (by decide)

theorem parentId_markExpanded (row : Row) :
    parentId (({} : Hierarchy).markExpanded row) = parentId row :=
  ({} : Hierarchy).cellText_markExpanded row (by decide)

theorem flagged_markExpanded (row : Row) :
    flagged (({} : Hierarchy).markExpanded row) = flagged row :=
  congrArg Value.isFlag (({} : Hierarchy).get_markExpanded_of_ne row (by decide))

/-! ### Families over an index -/

/-- The family that is gathered for a page: the missing parents, and for every known parent its
children that are not known. -/
structure Gathers (docs page : List Row) (f : Family) : Prop where
  two : TwoLevels docs
  page_subset : page ⊆ docs
  hierarchy_eq : f.hierarchy = {}
  withParents : f.expansion.includesParents = true
  withChildren : f.expansion.includesChildren = true
  page_perm : f.page.Perm (({} : Hierarchy).page page)
  mem_parents : ∀ q, q ∈ f.parents ↔
    ∃ d ∈ docs, docId d ∈ Supplement.missingParents f.page ∧ q = ({} : Hierarchy).node .fetched d
  mem_children : ∀ parent c, c ∈ f.fetchedChildren parent ↔
    parent.id ∈ Supplement.parentIds (f.page ++ f.parents) ∧ ∃ d ∈ docs, parentId d = parent.id ∧
      docId d ∉ Supplement.knownChildren (f.page ++ f.parents) parent.id ∧
      c = ({} : Hierarchy).node .fetched d

/-- A node is that of a document which belongs to the page, with the mark if it was not there. -/
structure Shows (docs page : List Row) (n : Node) (d : Row) : Prop where
  mem : d ∈ docs
  id_eq : n.id = docId d
  parent_eq : n.parent = parentId d
  row_eq : n.row = if docId d ∈ page.map docId then d else ({} : Hierarchy).markExpanded d
  belongs : Belongs docs page (docId d)

namespace Gathers

variable {docs page : List Row} {f : Family} (h : Gathers docs page f)

include h

theorem mem_page {n : Node} :
    n ∈ f.page ↔ ∃ i row, page[i]? = some row ∧ n = ({} : Hierarchy).node (.hit i) row :=
  h.page_perm.mem_iff.trans Hierarchy.mem_page

theorem exists_mem_page {row : Row} (hrow : row ∈ page) :
    ∃ i, ({} : Hierarchy).node (.hit i) row ∈ f.page := by
  obtain ⟨i, hi⟩ := List.mem_iff_getElem?.mp hrow
  exact ⟨i, h.mem_page.mpr ⟨i, row, hi, rfl⟩⟩

theorem row_of_mem_page {n : Node} (hn : n ∈ f.page) :
    ∃ i, ∃ row ∈ page, n = ({} : Hierarchy).node (.hit i) row := by
  obtain ⟨i, row, hrow, rfl⟩ := h.mem_page.mp hn
  exact ⟨i, row, List.mem_of_getElem? hrow, rfl⟩

theorem mem_missingParents {id : String} :
    id ∈ Supplement.missingParents f.page ↔
      (∃ row ∈ page, parentId row = id) ∧ id ≠ "" ∧ id ∉ page.map docId := by
  rw [Supplement.mem_missingParents]
  refine and_congr ?_ (and_congr_right fun _ => ?_)
  · constructor
    · rintro ⟨n, hn, hparent⟩
      obtain ⟨i, row, hrow, rfl⟩ := h.row_of_mem_page hn
      exact ⟨row, hrow, hparent⟩
    · rintro ⟨row, hrow, hparent⟩
      obtain ⟨i, hi⟩ := h.exists_mem_page hrow
      exact ⟨_, hi, hparent⟩
  · constructor
    · intro hpage hid
      obtain ⟨row, hrow, hid⟩ := List.mem_map.mp hid
      obtain ⟨i, hi⟩ := h.exists_mem_page hrow
      exact hpage _ hi hid
    · intro hnot n hn hid
      obtain ⟨i, row, hrow, rfl⟩ := h.row_of_mem_page hn
      exact hnot (List.mem_map.mpr ⟨row, hrow, hid⟩)

/-- The parents that are fetched are roots that are named by rows of the page and are not on it. -/
theorem root_of_mem_parents {q : Node} (hq : q ∈ f.parents) :
    ∃ d ∈ docs, q = ({} : Hierarchy).node .fetched d ∧ flagged d = true ∧ parentId d = "" ∧
      (∃ row ∈ page, parentId row = docId d) ∧ docId d ∉ page.map docId := by
  obtain ⟨d, hd, hmissing, rfl⟩ := (h.mem_parents q).mp hq
  obtain ⟨⟨row, hrow, hparent⟩, hne, hnot⟩ := h.mem_missingParents.mp hmissing
  obtain ⟨root, hroot, hflag, htop, hid⟩ := h.two.exists_root (h.page_subset hrow) (hparent ▸ hne)
  obtain rfl := h.two.eq_of_docId hroot hd (hid.trans hparent)
  exact ⟨root, hroot, rfl, hflag, htop, ⟨row, hrow, hparent⟩, hnot⟩

theorem named_of_mem_parentIds {id : String}
    (hid : id ∈ Supplement.parentIds (f.page ++ f.parents)) :
    id ≠ "" ∧ ∃ row ∈ page, docId row = id ∨ parentId row = id := by
  obtain ⟨n, hn, -, hne, rfl⟩ := Supplement.mem_parentIds.mp hid
  rcases List.mem_append.mp hn with hn | hn
  · obtain ⟨i, row, hrow, rfl⟩ := h.row_of_mem_page hn
    exact ⟨hne, row, hrow, .inl rfl⟩
  · obtain ⟨d, hd, rfl, -, -, ⟨row, hrow, hparent⟩, -⟩ := h.root_of_mem_parents hn
    exact ⟨hne, row, hrow, .inr hparent⟩

/-- The known children of a parent are those on the page, since fetched parents are roots. -/
theorem mem_knownChildren {parent id : String} (hparent : parent ≠ "") :
    id ∈ Supplement.knownChildren (f.page ++ f.parents) parent ↔
      ∃ row ∈ page, parentId row = parent ∧ docId row = id := by
  rw [Supplement.mem_knownChildren]
  constructor
  · rintro ⟨n, hn, hnamed, -, rfl⟩
    rcases List.mem_append.mp hn with hn | hn
    · obtain ⟨i, row, hrow, rfl⟩ := h.row_of_mem_page hn
      exact ⟨row, hrow, hnamed, rfl⟩
    · obtain ⟨d, hd, rfl, -, htop, -⟩ := h.root_of_mem_parents hn
      exact absurd (hnamed.symm.trans htop) hparent
  · rintro ⟨row, hrow, hnamed, rfl⟩
    obtain ⟨i, hi⟩ := h.exists_mem_page hrow
    exact ⟨_, List.mem_append_left _ hi, hnamed, h.two.id_ne row (h.page_subset hrow), rfl⟩

/-! ### What is placed -/

theorem shows_of_mem_page {n : Node} (hn : n ∈ f.page) : ∃ d, Shows docs page n d := by
  obtain ⟨i, row, hrow, rfl⟩ := h.row_of_mem_page hn
  exact ⟨row, h.page_subset hrow, rfl, rfl, (if_pos (List.mem_map_of_mem hrow)).symm, .hit hrow⟩

theorem shows_expanded {d : Row} (hd : d ∈ docs) (hnot : docId d ∉ page.map docId)
    (hbelongs : Belongs docs page (docId d)) :
    Shows docs page (f.hierarchy.expanded (({} : Hierarchy).node .fetched d)) d := by
  rw [h.hierarchy_eq]
  exact ⟨hd, docId_markExpanded d, parentId_markExpanded d, (if_neg hnot).symm, hbelongs⟩

theorem shows_of_mem_merge {p : Placed} (hp : p ∈ f.merge) : ∃ d, Shows docs page p.node d := by
  rcases Family.offer_of_mem_merge hp with haside | hn
  · cases haside with
    | hit mem id_ne note => exact h.shows_of_mem_page mem
    | parent mem note =>
        obtain ⟨d, hd, rfl, -, -, ⟨row, hrow, hparent⟩, hnot⟩ := h.root_of_mem_parents mem
        refine ⟨d, h.shows_expanded hd hnot ?_⟩
        rw [← hparent]
        exact .parent hrow (hparent ▸ h.two.id_ne d hd)
    | child mem note =>
        obtain ⟨hparentIds, d, hd, hparent, hknown, rfl⟩ := (h.mem_children _ _).mp mem
        obtain ⟨hne, hnamed⟩ := h.named_of_mem_parentIds hparentIds
        refine ⟨d, h.shows_expanded hd (fun hmem => ?_) ?_⟩
        · obtain ⟨row, hrow, hid⟩ := List.mem_map.mp hmem
          obtain rfl := h.two.eq_of_docId (h.page_subset hrow) hd hid
          exact hknown ((h.mem_knownChildren hne).mpr ⟨row, hrow, hparent, rfl⟩)
        · exact .child hd (hparent ▸ hne) (hparent ▸ hnamed)
  · exact h.shows_of_mem_page hn

theorem docId_row {p : Placed} (hp : p ∈ f.merge) : docId p.node.row = p.node.id := by
  obtain ⟨d, hd⟩ := h.shows_of_mem_merge hp
  rw [hd.row_eq, hd.id_eq]
  split
  · rfl
  · exact docId_markExpanded d

theorem ids_nodup : ((f.merge.map (·.node.row)).map docId).Nodup := by
  rw [List.map_map, List.nodup_iff_pairwise_ne, List.pairwise_map]
  -- A merge keeps keys apart, not ids; over an index the id decides the parent.
  refine Family.merge_distinct.imp_of_mem fun {p q} hp hq hkey hsame => ?_
  obtain ⟨d, hd⟩ := h.shows_of_mem_merge hp
  obtain ⟨d', hd'⟩ := h.shows_of_mem_merge hq
  have hids : p.node.id = q.node.id := by
    rw [← h.docId_row hp, ← h.docId_row hq]
    exact hsame
  obtain rfl := h.two.eq_of_docId hd.mem hd'.mem (hd.id_eq.symm.trans (hids.trans hd'.id_eq))
  exact hkey (hd.id_eq ▸ h.two.id_ne d hd.mem)
    (Prod.ext hids (hd.parent_eq.trans hd'.parent_eq.symm))

/-! ### What has to be placed -/

theorem exists_id_of_mem {row : Row} (hrow : row ∈ page) :
    ∃ p ∈ f.merge, p.node.id = docId row := by
  obtain ⟨i, hi⟩ := h.exists_mem_page hrow
  obtain ⟨p, hp, hkey⟩ := Family.exists_key_merge hi
  exact ⟨p, hp, Node.id_eq_of_key hkey⟩

theorem mem_parents_of_named {root row : Row} (hroot : root ∈ docs) (hrow : row ∈ page)
    (hid : docId root = parentId row) (hne : parentId row ≠ "")
    (hnot : parentId row ∉ page.map docId) :
    ({} : Hierarchy).node .fetched root ∈ f.parents :=
  (h.mem_parents _).mpr
    ⟨root, hroot, h.mem_missingParents.mpr ⟨⟨row, hrow, hid.symm⟩, hid ▸ hne, hid ▸ hnot⟩, rfl⟩

theorem parentOf?_of_named {root row : Row} {i : Nat} (hroot : root ∈ docs) (hrow : row ∈ page)
    (hid : docId root = parentId row) (hne : parentId row ≠ "")
    (hnot : parentId row ∉ page.map docId) :
    f.parentOf? (({} : Hierarchy).node (.hit i) row) =
      some (({} : Hierarchy).expanded (({} : Hierarchy).node .fetched root)) := by
  have habsent : f.page.find? (·.id == parentId row) = none := by
    refine List.find?_eq_none.mpr fun n hn heq => hnot ?_
    obtain ⟨j, row', hrow', rfl⟩ := h.row_of_mem_page hn
    exact List.mem_map.mpr ⟨row', hrow', by simpa using heq⟩
  have hmem := h.mem_parents_of_named hroot hrow hid hne hnot
  have hfound : f.parents.find? (·.id == parentId row) =
      some (({} : Hierarchy).node .fetched root) := by
    cases hfind : f.parents.find? (·.id == parentId row) with
    | none => exact absurd (by simpa using hid) (List.find?_eq_none.mp hfind _ hmem)
    | some q =>
        have hq : q.id = parentId row := by simpa using List.find?_some hfind
        obtain ⟨d, hd, rfl, -⟩ := h.root_of_mem_parents (List.mem_of_find?_eq_some hfind)
        obtain rfl := h.two.eq_of_docId hd hroot (hq.trans hid.symm)
        rfl
  simp [Family.parentOf?, h.withParents, hne, habsent, hfound, h.hierarchy_eq]

/-- A fetched root comes into the merge as a parent only: children have parents, and it has none. -/
theorem apart {root : Row} (htop : parentId root = "") (hnot : docId root ∉ page.map docId) :
    f.Apart (({} : Hierarchy).expanded (({} : Hierarchy).node .fetched root)) := by
  refine ⟨fun n hn hkey => hnot ?_, fun parent c hc hkey => ?_, fun n q hq hkey => ?_⟩
  · obtain ⟨i, row, hrow, rfl⟩ := h.row_of_mem_page hn
    have hid : docId row = docId root :=
      (Node.id_eq_of_key hkey).trans (docId_markExpanded root)
    exact hid ▸ List.mem_map_of_mem hrow
  · obtain ⟨hparentIds, d, -, hparent, -, rfl⟩ := (h.mem_children _ _).mp hc
    obtain ⟨hne, -⟩ := h.named_of_mem_parentIds hparentIds
    rw [h.hierarchy_eq] at hkey
    have hparents : parentId d = parentId root :=
      (parentId_markExpanded d).symm.trans
        ((Node.parent_eq_of_key hkey).trans (parentId_markExpanded root))
    exact hne (hparent.symm.trans (hparents.trans htop))
  · obtain ⟨-, hpageFind | ⟨-, q', hfind, rfl⟩⟩ := Family.parentOf?_eq_some hq
    · obtain ⟨i, row, hrow, rfl⟩ := h.row_of_mem_page (List.mem_of_find?_eq_some hpageFind)
      have hid : docId row = docId root :=
        (Node.id_eq_of_key hkey).trans (docId_markExpanded root)
      exact absurd (hid ▸ List.mem_map_of_mem hrow) hnot
    · obtain ⟨d, -, rfl, hflag, -⟩ :=
        h.root_of_mem_parents (List.mem_of_find?_eq_some hfind)
      rw [Family.needsChildren, h.withChildren, h.hierarchy_eq, Bool.true_and]
      exact (flagged_markExpanded d).trans hflag

theorem mem_fetchedChildren {d : Row} {n : Node} (hd : d ∈ docs)
    (hdnot : docId d ∉ page.map docId) (hparent : parentId d = n.id)
    (hknown : n.id ∈ Supplement.parentIds (f.page ++ f.parents)) :
    ({} : Hierarchy).node .fetched d ∈ f.fetchedChildren n := by
  obtain ⟨hne, -⟩ := h.named_of_mem_parentIds hknown
  refine (h.mem_children _ _).mpr ⟨hknown, d, hd, hparent, fun hmem => hdnot ?_, rfl⟩
  obtain ⟨row, hrow, -, hid⟩ := (h.mem_knownChildren hne).mp hmem
  exact hid ▸ List.mem_map_of_mem hrow

theorem id_eq_of_key_expanded {d : Row} {p : Placed}
    (hkey : p.node.key = (f.hierarchy.expanded (({} : Hierarchy).node .fetched d)).key) :
    p.node.id = docId d := by
  rw [h.hierarchy_eq] at hkey
  exact (Node.id_eq_of_key hkey).trans (docId_markExpanded d)

/-- The children of a root on the page follow on its turn. -/
theorem exists_id_of_child_of_mem {d root : Row} (hd : d ∈ docs) (hdnot : docId d ∉ page.map docId)
    (hroot : root ∈ page) (hflag : flagged root = true) (hid : docId root = parentId d) :
    ∃ p ∈ f.merge, p.node.id = docId d := by
  obtain ⟨i, hi⟩ := h.exists_mem_page hroot
  have hknown : docId root ∈ Supplement.parentIds (f.page ++ f.parents) :=
    Supplement.mem_parentIds.mpr
      ⟨_, List.mem_append_left _ hi, hflag, h.two.id_ne root (h.page_subset hroot), rfl⟩
  have hneeds : f.needsChildren (({} : Hierarchy).node (.hit i) root) = true := by
    rw [Family.needsChildren, h.withChildren, Bool.true_and]
    exact hflag
  obtain ⟨p, hp, hkey⟩ := Family.exists_key_of_needsChildren hi hneeds
    (h.mem_fetchedChildren hd hdnot hid.symm hknown)
  exact ⟨p, hp, h.id_eq_of_key_expanded hkey⟩

/-- The children of a fetched root are there, since it is never placed without them. -/
theorem exists_id_of_child_of_named {d root row : Row} (hd : d ∈ docs)
    (hdnot : docId d ∉ page.map docId) (hrow : row ∈ page) (hnamed : parentId row = parentId d)
    (hroot : root ∈ docs) (hflag : flagged root = true) (htop : parentId root = "")
    (hid : docId root = parentId row) (hnot : parentId row ∉ page.map docId) :
    ∃ p ∈ f.merge, p.node.id = docId d := by
  have hne : parentId row ≠ "" := hid ▸ h.two.id_ne root hroot
  obtain ⟨i, hi⟩ := h.exists_mem_page hrow
  have hplaced := Family.exists_key_of_parentOf? hi
    (h.parentOf?_of_named (i := i) hroot hrow hid hne hnot)
  have hknown : docId root ∈ Supplement.parentIds (f.page ++ f.parents) :=
    Supplement.mem_parentIds.mpr ⟨_,
      List.mem_append_right _ (h.mem_parents_of_named hroot hrow hid hne hnot), hflag,
      h.two.id_ne root hroot, rfl⟩
  have hcopy : (({} : Hierarchy).expanded (({} : Hierarchy).node .fetched root)).id = docId root :=
    docId_markExpanded root
  have hmem : ({} : Hierarchy).node .fetched d ∈ f.fetchedChildren
      (({} : Hierarchy).expanded (({} : Hierarchy).node .fetched root)) := by
    refine h.mem_fetchedChildren hd hdnot ?_ ?_
    · rw [hcopy, hid, hnamed]
    · rw [hcopy]
      exact hknown
  obtain ⟨p, hp, hkey⟩ := (h.apart htop (hid ▸ hnot)).merge hplaced _ hmem
  exact ⟨p, hp, h.id_eq_of_key_expanded hkey⟩

theorem exists_id_of_child {d row : Row} (hd : d ∈ docs) (hdnot : docId d ∉ page.map docId)
    (hne : parentId d ≠ "") (hrow : row ∈ page)
    (hroot : docId row = parentId d ∨ parentId row = parentId d) :
    ∃ p ∈ f.merge, p.node.id = docId d := by
  obtain ⟨root, hrootDocs, hflag, htop, hid⟩ := h.two.exists_root hd hne
  by_cases hon : parentId d ∈ page.map docId
  · obtain ⟨row', hrow', hid'⟩ := List.mem_map.mp hon
    obtain rfl := h.two.eq_of_docId (h.page_subset hrow') hrootDocs (hid'.trans hid.symm)
    exact h.exists_id_of_child_of_mem hd hdnot hrow' hflag hid
  · rcases hroot with hrowId | hnamed
    · exact absurd (hrowId ▸ List.mem_map_of_mem hrow) hon
    · exact h.exists_id_of_child_of_named hd hdnot hrow hnamed hrootDocs hflag htop
        (hid.trans hnamed.symm) (hnamed ▸ hon)

theorem exists_id_of_belongs {id : String} (hid : Belongs docs page id) :
    ∃ p ∈ f.merge, p.node.id = id := by
  cases hid with
  | hit mem => exact h.exists_id_of_mem mem
  | @parent row mem parent_ne =>
      by_cases hon : parentId row ∈ page.map docId
      · obtain ⟨row', hrow', hid'⟩ := List.mem_map.mp hon
        exact hid' ▸ h.exists_id_of_mem hrow'
      · obtain ⟨root, hroot, -, -, hrootId⟩ := h.two.exists_root (h.page_subset mem) parent_ne
        obtain ⟨i, hi⟩ := h.exists_mem_page mem
        have hparentOf := h.parentOf?_of_named (i := i) hroot mem hrootId parent_ne hon
        obtain ⟨p, hp, hkey⟩ := Family.exists_key_of_parentOf? hi hparentOf
        exact ⟨p, hp, (Node.id_eq_of_key hkey).trans ((docId_markExpanded root).trans hrootId)⟩
  | @child d mem parent_ne root =>
      by_cases hon : docId d ∈ page.map docId
      · obtain ⟨row', hrow', hid'⟩ := List.mem_map.mp hon
        exact hid' ▸ h.exists_id_of_mem hrow'
      · obtain ⟨row, hrow, hnamed⟩ := root
        exact h.exists_id_of_child mem hon parent_ne hrow hnamed

/-- A merge closes the page. -/
theorem closes :
    Closes docs page (f.merge.map (·.node.row)) := by
  refine ⟨fun id => ?_, h.ids_nodup, fun row hrow => ?_⟩
  · rw [List.map_map, List.mem_map]
    constructor
    · rintro ⟨p, hp, rfl⟩
      obtain ⟨d, hd⟩ := h.shows_of_mem_merge hp
      rw [Function.comp_apply, h.docId_row hp, hd.id_eq]
      exact hd.belongs
    · intro hbelongs
      obtain ⟨p, hp, hid⟩ := h.exists_id_of_belongs hbelongs
      exact ⟨p, hp, (h.docId_row hp).trans hid⟩
  · obtain ⟨p, hp, rfl⟩ := List.mem_map.mp hrow
    obtain ⟨d, hd⟩ := h.shows_of_mem_merge hp
    refine ⟨d, hd.mem, hd.id_eq.symm.trans (h.docId_row hp).symm, ?_⟩
    rw [hd.row_eq]
    split
    · rfl
    · exact ({} : Hierarchy).isMarkedCopy_markExpanded d

end Gathers

end Index

end CriteriaSearch
