import CriteriaSearch.Proofs.Page.Bare

/-!
# Expanding without the rows that have no id

A table and the same table without its rows that have no id: as long as these rows are unobtrusive,
both are expanded with the same fetches, and the rows with an id come out the same.
-/

namespace CriteriaSearch

/-- A table without the rows that have no id. -/
def Table.identified (t : Table) (h : Hierarchy) : Table :=
  { t with rows := t.rows.filter fun row => Hierarchy.cellText row h.id != "" }

/-! ### Pages -/

theorem Hierarchy.map_unnumbered_page (h : Hierarchy) (rows : List Row) :
    (h.page rows).map Node.unnumbered = rows.map (h.node (.hit 0)) := by
  have hcomp : Node.unnumbered ∘ (fun p : Row × Nat => h.node (.hit p.2) p.1) =
      h.node (.hit 0) ∘ Prod.fst := rfl
  rw [page, List.map_map]
  exact (congrArg (List.map · _) hcomp).trans (by rw [← List.map_map, List.zipIdx_map_fst])

theorem Hierarchy.page_identified (h : Hierarchy) (t : Table) :
    (h.page (t.identified h).rows).map Node.unnumbered =
      ((h.page t.rows).filter (·.id != "")).map Node.unnumbered := by
  have hfilter : ((h.page t.rows).filter (·.id != "")).map Node.unnumbered =
      ((h.page t.rows).map Node.unnumbered).filter (·.id != "") := by
    rw [List.filter_map]
    simp [Function.comp_def]
  rw [hfilter, map_unnumbered_page, map_unnumbered_page, List.filter_map]
  rfl

theorem reconcile_identified (h : Hierarchy) (t : Table) :
    (reconcile (h.page (t.identified h).rows)).map Node.unnumbered =
      ((reconcile (h.page t.rows)).filter (·.id != "")).map Node.unnumbered := by
  rw [← reconcile_map Node.id_unnumbered Node.parent_unnumbered, h.page_identified,
    reconcile_map Node.id_unnumbered Node.parent_unnumbered, reconcile_filter]

theorem Hierarchy.id_expanded_ne (h : Hierarchy) {row : Row} {origin : Origin}
    (hid : (h.node origin row).id ≠ "") : (h.expanded (h.node origin row)).id ≠ "" := by
  by_cases hname : h.id = h.isExpanded
  · have hget : Row.get (h.markExpanded row) h.id = .bool true := by
      rw [hname]
      exact h.get_markExpanded_self row
    have hcell : (h.expanded (h.node origin row)).id = "True" := by
      simp only [expanded, node, cellText, cell, hget]
      rfl
    rw [hcell]
    decide
  · have hcell : (h.expanded (h.node origin row)).id = (h.node origin row).id :=
      h.cellText_markExpanded row hname
    rwa [hcell]

/-! ### Families -/

namespace Family

/-- Two families of which one is the other without the rows of its page that have no id. -/
structure Strips (f f' : Family) : Prop where
  page : f'.page.map Node.unnumbered = (f.page.filter (·.id != "")).map Node.unnumbered
  rest : f' = { f with page := f'.page }

theorem Strips.named {f f' : Family} (h : f.Strips f') : ∀ n ∈ f'.page, n.id ≠ "" := by
  intro n hn
  have hmem : n.unnumbered ∈ (f.page.filter (·.id != "")).map Node.unnumbered :=
    h.page ▸ List.mem_map_of_mem hn
  obtain ⟨m, hm, heq⟩ := List.mem_map.mp hmem
  have hid : n.id = m.id := by rw [← n.id_unnumbered, ← heq, m.id_unnumbered]
  rw [hid]
  simpa using (List.mem_filter.mp hm).2

theorem Strips.stripped_eq {f f' : Family} (h : f.Strips f') : f'.stripped = f.stripped := by
  have hfilter : f'.page.filter (·.id != "") = f'.page :=
    List.filter_eq_self.mpr fun n hn => by simpa using h.named n hn
  rw [stripped, hfilter, h.page, h.rest]
  rfl

/-- The same keys can be read for both. -/
theorem Strips.requireKeys_eq {f f' : Family} (h : f.Strips f')
    (hinert : Unobtrusive f.expansion f.page) (hpage : ∀ n ∈ f.page, f.hierarchy.IsLegible n.row) :
    f.requireKeys = f'.requireKeys := by
  have hlegible : ∀ n ∈ f'.page, f'.hierarchy.IsLegible n.row := by
    intro n hn
    obtain ⟨m, hm, heq⟩ := List.mem_map.mp (h.page ▸ List.mem_map_of_mem (f := Node.unnumbered) hn)
    rw [h.rest, ← n.row_unnumbered, ← heq, m.row_unnumbered]
    exact hpage m (List.mem_of_mem_filter hm)
  rw [requireKeys_stripped hinert hpage, requireKeys_stripped (.of_named h.named) hlegible,
    h.stripped_eq]

end Family

/-! ### What a page lacks -/

namespace Supplement

variable {page page' : List Node}

theorem missingParents_unnumbered (page : List Node) :
    missingParents (page.map Node.unnumbered) = missingParents page := by
  simp [missingParents, Function.comp_def]

theorem parentIds_unnumbered (known : List Node) :
    parentIds (known.map Node.unnumbered) = parentIds known := by
  simp [parentIds, List.filter_map, Function.comp_def]

theorem knownChildren_unnumbered (known : List Node) (parent : String) :
    knownChildren (known.map Node.unnumbered) parent = knownChildren known parent := by
  simp [knownChildren, List.filter_map, Function.comp_def]

/-- Whether a parent is missing on a page. -/
def lacks (page : List Node) (parent : String) : Bool :=
  parent != "" && !page.any (·.id == parent)

theorem lacks_filter (page : List Node) : lacks (page.filter (·.id != "")) = lacks page := by
  funext p
  unfold lacks
  by_cases hp : p = ""
  · simp [hp]
  · have hsame : (fun n : Node => n.id != "" && n.id == p) = fun n => n.id == p := by
      funext n
      by_cases hn : n.id = p <;> simp [hn, hp]
    rw [List.any_filter, hsame]

/-- The missing parents that rows of a page name. -/
def missed (page rows : List Node) : List String :=
  ((rows.map Node.parent).filter (lacks page)).eraseDups

theorem missed_concat_of_not_lacks {n : Node} (hn : ¬ lacks page n.parent = true)
    (rows : List Node) : missed page (rows ++ [n]) = missed page rows := by
  have hnone : ([n].map Node.parent).filter (lacks page) = [] := List.filter_cons_of_neg hn
  rw [missed, List.map_append, List.filter_append, hnone, List.append_nil, missed]

theorem missed_concat_of_lacks {n : Node} (hn : lacks page n.parent = true) (rows : List Node) :
    missed page (rows ++ [n]) = if (missed page rows).contains n.parent then missed page rows
      else missed page rows ++ [n.parent] := by
  have hlast : ([n].map Node.parent).filter (lacks page) = [n.parent] :=
    List.filter_cons_of_pos hn
  rw [missed, List.map_append, List.filter_append, hlast, eraseDups_concat]
  rfl

theorem mem_missed_of_bare {e : Expansion} (hon : e.includesParents = true)
    (hinert : Unobtrusive e page) {pre post : List Node} {n : Node}
    (hpage : page = pre ++ n :: post) (hid : n.id = "") (hn : lacks page n.parent = true) :
    n.parent ∈ missed page pre := by
  obtain ⟨hparent, hnot⟩ := Bool.and_eq_true_iff.mp hn
  obtain ⟨m, hm, -, hnames | hnames⟩ :=
    hinert.parents hon pre n post hpage hid (by simpa using hparent)
  · have hmem : m ∈ page := hpage ▸ List.mem_append_left _ hm
    simp only [Bool.not_eq_true', List.any_eq_false, beq_iff_eq] at hnot
    exact absurd hnames (hnot m hmem)
  · rw [missed, List.mem_eraseDups, List.mem_filter]
    exact ⟨List.mem_map.mpr ⟨m, hm, hnames⟩, hn⟩

/-- No parent is missed because of a row without an id. -/
theorem missingParents_filter {e : Expansion} (hon : e.includesParents = true)
    (hinert : Unobtrusive e page) :
    missingParents (page.filter (·.id != "")) = missingParents page := by
  have hrun : ∀ pre post, page = pre ++ post →
      missed page (pre.filter (·.id != "")) = missed page pre := by
    intro pre
    induction pre using List.reverseRecOn with
    | nil => exact fun _ _ => rfl
    | append_singleton pre n ih =>
        intro post hsplit
        have hpage : page = pre ++ n :: post := by simpa using hsplit
        have hpre := ih (n :: post) hpage
        rw [List.filter_append]
        by_cases hid : n.id = ""
        · rw [List.filter_cons_of_neg (by simpa using hid), List.filter_nil, List.append_nil, hpre]
          by_cases hn : lacks page n.parent = true
          · have hseen := mem_missed_of_bare hon hinert hpage hid hn
            rw [missed_concat_of_lacks hn, if_pos (List.contains_iff_mem.mpr hseen)]
          · rw [missed_concat_of_not_lacks hn]
        · rw [List.filter_cons_of_pos (by simpa using hid), List.filter_nil]
          by_cases hn : lacks page n.parent = true
          · rw [missed_concat_of_lacks hn, missed_concat_of_lacks hn, hpre]
          · rw [missed_concat_of_not_lacks hn, missed_concat_of_not_lacks hn, hpre]
  calc missingParents (page.filter (·.id != ""))
      = missed (page.filter (·.id != "")) (page.filter (·.id != "")) := rfl
    _ = missed page (page.filter (·.id != "")) := by rw [missed, lacks_filter, missed]
    _ = missed page page := hrun page [] (List.append_nil _).symm

theorem parentIds_filter (page found : List Node) :
    parentIds (page.filter (·.id != "") ++ found) = parentIds (page ++ found) := by
  simp only [parentIds, List.filter_append, List.filter_filter, Bool.and_assoc, Bool.and_self]

theorem knownChildren_filter (page found : List Node) (parent : String) :
    knownChildren (page.filter (·.id != "") ++ found) parent =
      knownChildren (page ++ found) parent := by
  simp only [knownChildren, List.filter_append, List.filter_filter, Bool.and_assoc, Bool.and_self]

end Supplement

namespace Engine

open Supplement

theorem SameGaps.of_unnumbered {h : Hierarchy} {e : Expansion} {page page' : List Node}
    (hlegible : ∀ n ∈ page, h.IsLegible n.row) (hinert : Unobtrusive e page)
    (hpage : page'.map Node.unnumbered = (page.filter (·.id != "")).map Node.unnumbered) :
    SameGaps h e page page' := by
  have hknown : ∀ found, (page' ++ found).map Node.unnumbered =
      (page.filter (·.id != "") ++ found).map Node.unnumbered := by
    intro found
    rw [List.map_append, List.map_append, hpage]
  refine ⟨hlegible, fun n hn => ?_, ?_, ?_, ?_⟩
  · have hmem := hpage ▸ List.mem_map_of_mem (f := Node.unnumbered) hn
    obtain ⟨m, hm, heq⟩ := List.mem_map.mp hmem
    rw [← n.row_unnumbered, ← heq, m.row_unnumbered]
    exact hlegible m (List.mem_of_mem_filter hm)
  · intro hon
    rw [← missingParents_filter hon hinert, ← missingParents_unnumbered page', hpage,
      missingParents_unnumbered]
  · intro _ found
    rw [← parentIds_filter, ← parentIds_unnumbered (page' ++ found), hknown,
      parentIds_unnumbered]
  · intro _ found parent
    rw [← knownChildren_filter, ← knownChildren_unnumbered (page' ++ found), hknown,
      knownChildren_unnumbered]

variable {σ : Type} {x : Engine σ} {e : Expansion} {rows : List Row}

/-! ### What is gathered -/

theorem Gathered.children_get?_empty {exchanges : List Exchange} {f : Family}
    (h : x.Gathered rows e exchanges (.ok f)) : f.children.get? "" = none := by
  cases h.supplied_of_ok with
  | @complete xs ys found children parents rest =>
      cases hget : children.get? "" with
      | none => exact hget
      | some nodes =>
          obtain ⟨-, hmem⟩ := rest.mem_parentIds hget
          obtain ⟨n, -, -, hne, hid⟩ := mem_parentIds.mp hmem
          exact absurd hid hne

theorem Gathered.parent_expanded {exchanges : List Exchange} {f : Family}
    (h : x.Gathered rows e exchanges (.ok f)) {q : Node} (hq : q ∈ f.parents) (hid : q.id ≠ "") :
    (f.hierarchy.expanded q).id ≠ "" := by
  obtain ⟨row, -, rfl⟩ := h.readOff.parent_fetched q hq
  exact f.hierarchy.id_expanded_ne hid

theorem Gathered.origin_ne {exchanges : List Exchange} {f : Family}
    (h : x.Gathered rows e exchanges (.ok f)) {n : Node} (hn : n ∈ f.page) :
    n.origin ≠ .fetched := by
  obtain ⟨i, row, -, rfl⟩ := h.readOff.mem_page.mp hn
  exact Origin.noConfusion

theorem Gathered.kept_merge {exchanges : List Exchange} {f : Family}
    (h : x.Gathered rows e exchanges (.ok f)) (hinert : Unobtrusive f.expansion f.page) :
    Placed.kept f.merge = f.stripped.merge :=
  Family.kept_merge hinert (fun _ => h.origin_ne) (fun _ => h.parent_expanded)
    h.children_get?_empty

/-- Without bare rows on the page, none are placed. -/
theorem Gathered.filter_merge_of_named {exchanges : List Exchange} {f : Family}
    (h : x.Gathered rows e exchanges (.ok f)) (hnamed : ∀ n ∈ f.page, n.id ≠ "") :
    f.merge.filter (fun p => !p.node.bare) = f.merge := by
  have hnone : Family.bareHits f.merge = [] := by
    rw [Family.bareHits_merge fun n => h.origin_ne, List.filter_eq_nil_iff]
    intro n hn
    simpa using hnamed n hn
  rw [List.filter_eq_self]
  intro p hp
  have hnot := (List.filter_eq_nil_iff.mp hnone) p.node (List.mem_map_of_mem hp)
  simpa [Node.bare, or_iff_not_imp_left] using hnot

theorem rows_kept (placed : List Placed) : (Placed.kept placed).map (·.node.row) =
    (placed.filter fun p => !p.node.bare).map (·.node.row) := by
  simp [Placed.kept, Function.comp_def]

/-- Families that differ in the rows without an id are merged to the same rows with an id. -/
theorem rows_merge_of_strips {rows' : List Row} {exchanges exchanges' : List Exchange}
    {f f' : Family} (h : x.Gathered rows e exchanges (.ok f))
    (h' : x.Gathered rows' e exchanges' (.ok f')) (hinert : Unobtrusive f.expansion f.page)
    (hstrips : f.Strips f') :
    (f.merge.filter fun p => !p.node.bare).map (·.node.row) = f'.merge.map (·.node.row) := by
  have hnamed := hstrips.named
  have hstripped := hstrips.stripped_eq
  rw [← rows_kept, h.kept_merge hinert, ← hstripped, ← h'.kept_merge (.of_named hnamed), rows_kept,
    h'.filter_merge_of_named hnamed]

/-! ### Expansions -/

/-- The journals of two runs over a source without memory grow in the same way. -/
theorem journaled_paired_self {answer : Request → Except Failure Table}
    (hsource : x.source.Answers answer) :
    Paired (fun a b : Journal σ => a.2 = b.2) x.journaled x.journaled := by
  refine .of_source (fun r => ?_) rfl rfl rfl rfl
  rintro ⟨s, journal⟩ ⟨s', journal'⟩ hjournal
  have hanswer : (x.source.fetch r s).1 = (x.source.fetch r s').1 :=
    (hsource r s).trans (hsource r s').symm
  refine ⟨hanswer, ?_⟩
  have hlog : journal ++ [⟨r, (x.source.fetch r s).1⟩] =
      journal' ++ [⟨r, (x.source.fetch r s').1⟩] := by
    rw [show journal = journal' from hjournal, hanswer]
  exact hlog

/-- The page without the rows that have no id can be put into the order of the hierarchy if the
whole one can. -/
theorem arrange_identified (x : Engine σ) {t : Table}
    (hlegible : ∀ row ∈ t.rows, x.hierarchy.IsLegible row)
    (hshallow : Shallow x.room (x.hierarchy.page t.rows)) :
    x.hierarchy.arrange x.room t.rows = .ok (x.pageOf t.rows) ∧
      x.hierarchy.arrange x.room (t.identified x.hierarchy).rows =
        .ok (x.pageOf (t.identified x.hierarchy).rows) := by
  have hkeys : ∀ nodes : List Node,
      nodes.map Node.key = (nodes.map Node.unnumbered).map Node.key := by
    simp
  have hsub : ((x.hierarchy.page (t.identified x.hierarchy).rows).map Node.key).Sublist
      ((x.hierarchy.page t.rows).map Node.key) := by
    rw [hkeys, x.hierarchy.page_identified, ← hkeys]
    exact List.filter_sublist.map Node.key
  refine ⟨Hierarchy.arrange_of_legible hlegible hshallow,
    Hierarchy.arrange_of_legible (fun row hrow => ?_) (hshallow.of_sublist hsub)⟩
  exact hlegible row (List.mem_of_mem_filter hrow)

/-- How two expansions end with the same family apart from rows without an id. -/
inductive EndAlike (x : Engine σ) (e : Expansion) (t t' : Table) (s s' : σ) : Prop
  | failed {cause : Failure} (failed : (x.gather t.rows e s).1.1 = .error cause)
      (failed' : (x.gather t'.rows e s').1.1 = .error cause)
  | gathered {f f' : Family} (gathered : (x.gather t.rows e s).1.1 = .ok f)
      (gathered' : (x.gather t'.rows e s').1.1 = .ok f') (strips : f.Strips f')

/-- Families that differ in rows without an id end alike if the same keys have to be read. -/
theorem endAlike_of_strips {x : Engine σ} {e : Expansion} {t t' : Table} {s s' : σ} {f f' : Family}
    (hstrips : f.Strips f') (hkeys : f.requireKeys = f'.requireKeys)
    (hend : (x.gather t.rows e s).1.1 = f.requireKeys.map fun _ => f)
    (hend' : (x.gather t'.rows e s').1.1 = f'.requireKeys.map fun _ => f') :
    x.EndAlike e t t' s s' := by
  cases hrequired : f.requireKeys with
  | error cause =>
      rw [hrequired] at hend
      rw [← hkeys, hrequired] at hend'
      exact .failed hend hend'
  | ok _ =>
      rw [hrequired] at hend
      rw [← hkeys, hrequired] at hend'
      exact .gathered hend hend' hstrips

/-- Two pages that fail for the same cause end alike, and nothing is exchanged for them. -/
theorem gather_alike_of_disordered (x : Engine σ) {t t' : Table} {cause : Failure}
    (h : x.hierarchy.arrange x.room t.rows = .error cause)
    (h' : x.hierarchy.arrange x.room t'.rows = .error cause) (e : Expansion) (s s' : σ) :
    x.EndAlike e t t' s s' ∧
      (x.journaled.gather t.rows e (s, [])).2.2 =
        (x.journaled.gather t'.rows e (s', [])).2.2 := by
  rw [x.journaled.gather_of_disordered h, x.journaled.gather_of_disordered h']
  exact ⟨.failed (congrArg (·.1.1) (x.gather_of_disordered h e s))
    (congrArg (·.1.1) (x.gather_of_disordered h' e s')), rfl⟩

/-- A page that can be put into the order of the hierarchy ends like the same page without
unobtrusive rows that have no id, after the same exchanges. -/
theorem gather_alike_of_arranged (x : Engine σ) {answer : Request → Except Failure Table}
    (hsource : x.source.Answers answer) {t : Table}
    (hpage : x.hierarchy.arrange x.room t.rows = .ok (x.pageOf t.rows))
    (hpage' : x.hierarchy.arrange x.room (t.identified x.hierarchy).rows =
      .ok (x.pageOf (t.identified x.hierarchy).rows))
    (hinert : Unobtrusive e (x.pageOf t.rows)) (s s' : σ) :
    x.EndAlike e t (t.identified x.hierarchy) s s' ∧
      (x.journaled.gather t.rows e (s, [])).2.2 =
        (x.journaled.gather (t.identified x.hierarchy).rows e (s', [])).2.2 := by
  have hread := Hierarchy.legible_of_arrange hpage
  have hsame : ∀ rows s, (x.gather rows e s).1 = (x.journaled.gather rows e (s, [])).1 :=
    fun rows s => (congrArg Prod.fst (x.journaled_gather rows e s [])).symm
  have hend := congrArg Prod.fst (hsame t.rows s)
  have hend' := congrArg Prod.fst (hsame (t.identified x.hierarchy).rows s')
  rw [x.journaled.gather_of_arranged hpage, mergeable_fst] at hend
  rw [x.journaled.gather_of_arranged hpage', mergeable_fst] at hend'
  have hgaps : SameGaps x.hierarchy e (x.pageOf t.rows)
      (x.pageOf (t.identified x.hierarchy).rows) :=
    .of_unnumbered hread hinert (reconcile_identified x.hierarchy t)
  obtain ⟨hresult, hjournal⟩ := (journaled_paired_self hsource).supply hgaps (s, []) (s', []) rfl
  rw [x.journaled.gather_of_arranged hpage, x.journaled.gather_of_arranged hpage']
  refine ⟨?_, hjournal⟩
  revert hresult hend hend'
  generalize (x.journaled.supply (x.pageOf t.rows) e (s, [])).1 = a
  generalize (x.journaled.supply (x.pageOf (t.identified x.hierarchy).rows) e (s', [])).1 = b
  intro hend hend' hresult
  cases hresult with
  | failed cause notes => exact .failed hend hend'
  | gathered parents children notes =>
      have hstrips : (x.familyOf (x.pageOf t.rows) e parents children).Strips
          (x.familyOf (x.pageOf (t.identified x.hierarchy).rows) e parents children) :=
        ⟨reconcile_identified x.hierarchy t, rfl⟩
      exact endAlike_of_strips hstrips (hstrips.requireKeys_eq hinert hread) hend hend'

/-- Without unobtrusive rows that have no id, gathering ends alike, after the same exchanges. -/
theorem gather_identified (x : Engine σ) {answer : Request → Except Failure Table}
    (hsource : x.source.Answers answer) {t : Table}
    (hlegible : ∀ row ∈ t.rows, Hierarchy.cellText row x.hierarchy.id = "" →
      x.hierarchy.IsLegible row)
    (hshallow : Shallow x.room (x.hierarchy.page t.rows))
    (hinert : Unobtrusive e (x.pageOf t.rows)) (s s' : σ) :
    x.EndAlike e t (t.identified x.hierarchy) s s' ∧
      (x.journaled.gather t.rows e (s, [])).2.2 =
        (x.journaled.gather (t.identified x.hierarchy).rows e (s', [])).2.2 := by
  by_cases hall : ∀ row ∈ t.rows, x.hierarchy.IsLegible row
  · obtain ⟨hpage, hpage'⟩ := x.arrange_identified hall hshallow
    exact x.gather_alike_of_arranged hsource hpage hpage' hinert s s'
  · -- The row that cannot be read has an id, so it is on both pages.
    push Not at hall
    obtain ⟨row, hrow, hnot⟩ := hall
    have hid : Hierarchy.cellText row x.hierarchy.id ≠ "" := fun h => hnot (hlegible row hrow h)
    have hrow' : row ∈ (t.identified x.hierarchy).rows :=
      List.mem_filter.mpr ⟨hrow, by simpa using hid⟩
    exact x.gather_alike_of_disordered (Hierarchy.arrange_of_illegible hrow hnot)
      (Hierarchy.arrange_of_illegible hrow' hnot) e s s'

/-- Unobtrusive rows without an id do not matter as far as they can be read and there is room for
their levels: without them the same is fetched, a failure is the same, and the other rows come out
the same. -/
theorem expand_identified (x : Engine σ) {answer : Request → Except Failure Table}
    (hsource : x.source.Answers answer) (t : Table)
    (hcolumn : t.columns.any (·.name == x.hierarchy.id) = true)
    (hrows : ∃ row ∈ t.rows, Hierarchy.cellText row x.hierarchy.id ≠ "")
    (hlegible : ∀ row ∈ t.rows, Hierarchy.cellText row x.hierarchy.id = "" →
      x.hierarchy.IsLegible row)
    (hshallow : Shallow x.room (x.hierarchy.page t.rows)) (e : Expansion)
    (hinert : Unobtrusive e (x.pageOf t.rows)) (s s' : σ) :
    x.exchanges t e s = x.exchanges (t.identified x.hierarchy) e s' ∧
      (e.mode = .none → (x.expand t e s).1.outcome = .ok t ∧
        (x.expand (t.identified x.hierarchy) e s').1.outcome = .ok (t.identified x.hierarchy)) ∧
      (∀ cause, (x.expand t e s).1.outcome = .error cause ↔
        (x.expand (t.identified x.hierarchy) e s').1.outcome = .error cause) ∧
      ∀ f, e.mode ≠ .none → (x.gather t.rows e s).1.1 = .ok f → ∃ f',
        (x.gather (t.identified x.hierarchy).rows e s').1.1 = .ok f' ∧
          (x.expand t e s).1.outcome = .ok (withMerged x.hierarchy t f.merge) ∧
          (x.expand (t.identified x.hierarchy) e s').1.outcome =
            .ok (withMerged x.hierarchy (t.identified x.hierarchy) f'.merge) ∧
          (f.merge.filter fun p => !p.node.bare).map (·.node.row) =
            f'.merge.map (·.node.row) := by
  by_cases hmode : e.mode = .none
  · have hnone : ∀ t s, x.exchanges t e s = [] := fun _ => x.exchanges_of_idle (.inl hmode)
    have hok : ∀ t s, (x.expand t e s).1.outcome = .ok t := fun _ => x.expand_of_idle (.inl hmode)
    refine ⟨(hnone t s).trans (hnone _ s').symm, fun _ => ⟨hok t s, hok _ s'⟩, fun cause => ?_,
      fun f hmode' => absurd hmode hmode'⟩
    rw [hok, hok]
    exact ⟨(fun h => nomatch h), (fun h => nomatch h)⟩
  · obtain ⟨row, hrow, hid⟩ := hrows
    have hrow' : row ∈ (t.identified x.hierarchy).rows :=
      List.mem_filter.mpr ⟨hrow, by simpa using hid⟩
    have hhas : ∀ u : Table, u.columns = t.columns → u.hasColumn x.hierarchy.id = true := by
      intro u hu
      rw [Table.hasColumn, hu, hcolumn, Bool.true_or]
    have hbusy := x.not_idle hmode (List.ne_nil_of_mem hrow) (hhas t rfl)
    have hbusy' := x.not_idle hmode (List.ne_nil_of_mem hrow') (hhas (t.identified x.hierarchy) rfl)
    obtain ⟨hend, hjournal⟩ := x.gather_identified hsource hlegible hshallow hinert s s'
    have hgathered := x.gathered_of_busy hbusy s
    have hgathered' := x.gathered_of_busy hbusy' s'
    rw [x.exchanges_of_busy hbusy, x.exchanges_of_busy hbusy',
      x.expand_outcome_of_busy hbusy, x.expand_outcome_of_busy hbusy']
    refine ⟨hjournal, fun h => absurd h hmode, ?_⟩
    cases hend with
    | failed failed failed' =>
        rw [failed, failed']
        exact ⟨fun _ => Iff.rfl, fun f _ hf => nomatch hf⟩
    | gathered gathered gathered' strips =>
        rw [gathered] at hgathered ⊢
        rw [gathered'] at hgathered' ⊢
        refine ⟨fun _ => ⟨(fun h => nomatch h), (fun h => nomatch h)⟩, fun f _ hf => ?_⟩
        obtain rfl := Except.ok.inj hf
        refine ⟨_, rfl, rfl, rfl, rows_merge_of_strips hgathered hgathered' ?_ strips⟩
        rw [hgathered.expansion_eq, hgathered.page_eq]
        exact hinert

/-- A source without documents. -/
def emptyHouse : Engine Unit where
  source := .ofFunction fun _ => .ok {}

/-- Between a parent and its child stands a row without an id that names the parent. -/
def family : Table where
  columns := [⟨"id", .text⟩, ⟨"is_parent", .boolean⟩, ⟨"parent_id", .text⟩]
  rows := [[("id", .text "A"), ("is_parent", .bool true)],
    [("is_parent", .bool true), ("parent_id", .text "A")],
    [("id", .text "a1"), ("parent_id", .text "A")]]

theorem arrange_family : emptyHouse.hierarchy.arrange emptyHouse.room family.rows =
    .ok (emptyHouse.hierarchy.page family.rows) := rfl

theorem isLegible_family : ∀ row ∈ family.rows, emptyHouse.hierarchy.IsLegible row :=
  (Hierarchy.arrange_eq_ok arrange_family).1

theorem unobtrusive_family : Unobtrusive { mode := .both } (emptyHouse.pageOf family.rows) := by
  rw [← emptyHouse.arrange_eq_pageOf arrange_family]
  have hsplit : ∀ pre n post, emptyHouse.hierarchy.page family.rows = pre ++ n :: post →
      n.id = "" → n.parent = "A" ∧ (∃ m ∈ pre, m.id = "A") ∧ ∀ m ∈ post, m.parent = "A" := by
    intro pre n post hpage hid
    match pre, hpage with
    | [], hpage =>
        obtain ⟨rfl, -⟩ := List.cons.inj hpage
        exact absurd hid (by decide)
    | [_], hpage =>
        obtain ⟨rfl, hrest⟩ := List.cons.inj hpage
        obtain ⟨rfl, rfl⟩ := List.cons.inj hrest
        exact ⟨rfl, ⟨_, List.mem_cons_self, rfl⟩, fun m hm => (List.mem_singleton.mp hm) ▸ rfl⟩
    | [_, _], hpage =>
        obtain ⟨rfl, -⟩ := List.cons.inj (List.cons.inj (List.cons.inj hpage).2).2
        exact absurd hid (by decide)
    | _ :: _ :: _ :: pre, hpage =>
        have hlength := congrArg List.length hpage
        simp [Hierarchy.page, family] at hlength
  constructor
  · intro _ pre n post hpage hid _
    obtain ⟨hparent, ⟨m, hm, hmid⟩, -⟩ := hsplit pre n post hpage hid
    exact ⟨m, hm, by rw [hmid]; decide, .inl (hmid.trans hparent.symm)⟩
  · intro _ pre n post hpage hid _ m hm _
    obtain ⟨-, -, hpost⟩ := hsplit pre n post hpage hid
    rw [hpost m hm]
    decide

theorem emptyHouse_expand_identified :
    emptyHouse.source.Answers (fun _ => .ok {}) ∧
      Unobtrusive { mode := .both } (emptyHouse.pageOf family.rows) ∧
      emptyHouse.exchanges family { mode := .both } () =
        emptyHouse.exchanges (family.identified emptyHouse.hierarchy) { mode := .both } () ∧
      ∃ f f' : Family, (emptyHouse.expand family { mode := .both } ()).1.outcome =
          .ok (withMerged emptyHouse.hierarchy family f.merge) ∧
        (emptyHouse.expand (family.identified emptyHouse.hierarchy)
            { mode := .both } ()).1.outcome =
          .ok (withMerged emptyHouse.hierarchy (family.identified emptyHouse.hierarchy) f'.merge) ∧
        (f.merge.filter fun p => !p.node.bare).map (·.node.row) = f'.merge.map (·.node.row) := by
  have hsource : emptyHouse.source.Answers (fun _ => .ok {}) := fun _ _ => rfl
  have hsame := expand_identified emptyHouse hsource family (by decide)
    ⟨_, List.mem_cons_self, by decide⟩ (fun row hrow _ => isLegible_family row hrow)
    (shallow_of_length_le (by decide)) { mode := .both } unobtrusive_family () ()
  obtain ⟨f, hf⟩ : ∃ f, (emptyHouse.gather family.rows { mode := .both } ()).1.1 = .ok f :=
    ⟨_, rfl⟩
  obtain ⟨f', -, hout, hout', hmerge⟩ := hsame.2.2.2 f (by decide) hf
  exact ⟨hsource, unobtrusive_family, hsame.1, f, f', hout, hout', hmerge⟩

/-- Before all others stands a row without an id that is flagged as a parent. -/
def crowd : Table where
  columns := [⟨"is_parent", .boolean⟩, ⟨"id", .text⟩, ⟨"parent_id", .text⟩]
  rows := [[("is_parent", .bool true)],
    [("id", .text "A"), ("is_parent", .bool true)],
    [("id", .text "a1"), ("parent_id", .text "A")],
    [("id", .text "B")]]

/-- The empty id of this row is taken for the parent of all roots: they are placed after it, and `B`
comes before the child of `A`. -/
theorem emptyHouse_reorders :
    emptyHouse.source.Answers (fun _ => .ok {}) ∧
      crowd.columns.any (·.name == emptyHouse.hierarchy.id) = true ∧
      (∃ row ∈ crowd.rows, Hierarchy.cellText row emptyHouse.hierarchy.id ≠ "") ∧
      ∃ after after', (emptyHouse.expand crowd { mode := .child } ()).1.outcome = .ok after ∧
        (emptyHouse.expand (crowd.identified emptyHouse.hierarchy)
            { mode := .child } ()).1.outcome =
          .ok after' ∧
        (after.identified emptyHouse.hierarchy).rows.map (Hierarchy.cellText · "id") =
          ["A", "B", "a1"] ∧
        after'.rows.map (Hierarchy.cellText · "id") = ["A", "a1", "B"] := by
  obtain ⟨f, hf, hrows⟩ : ∃ f, (emptyHouse.gather crowd.rows { mode := .child } ()).1.1 = .ok f ∧
      ((withMerged emptyHouse.hierarchy crowd f.merge).identified emptyHouse.hierarchy).rows.map
        (Hierarchy.cellText · "id") = ["A", "B", "a1"] := ⟨_, rfl, by decide⟩
  obtain ⟨f', hf', hrows'⟩ : ∃ f', (emptyHouse.gather (crowd.identified emptyHouse.hierarchy).rows
        { mode := .child } ()).1.1 = .ok f' ∧
      (withMerged emptyHouse.hierarchy (crowd.identified emptyHouse.hierarchy) f'.merge).rows.map
        (Hierarchy.cellText · "id") = ["A", "a1", "B"] := ⟨_, rfl, by decide⟩
  have hout := emptyHouse.expand_of_gather
    (emptyHouse.not_idle (by decide) (by decide) (by decide)) hf
  have hout' := emptyHouse.expand_of_gather
    (emptyHouse.not_idle (by decide) (by decide) (by decide)) hf'
  exact ⟨fun _ _ => rfl, by decide, ⟨_, List.mem_cons_of_mem _ List.mem_cons_self, by decide⟩,
    _, _, hout, hout', hrows, hrows'⟩

end Engine

end CriteriaSearch
