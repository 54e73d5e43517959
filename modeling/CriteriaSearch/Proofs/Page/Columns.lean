import CriteriaSearch.Proofs.Page.Completion

/-!
# Columns of expanded tables

A table made of rows has a column for every name with a cell that is not null. An expansion adds no
column but the one for its mark, so its table has this property again exactly if the fetched rows
that were merged have no other names than the page.
-/

namespace CriteriaSearch

namespace Table

def names (columns : List Column) : List String := columns.map Column.name

/-- Columns have distinct names, and there is one for every cell that is not null. -/
structure IsDeclared (t : Table) : Prop where
  nodup : (names t.columns).Nodup
  declared : ∀ row ∈ t.rows, ∀ name, (Row.get row name).isNull = false → name ∈ names t.columns

theorem any_name_iff {columns : List Column} {name : String} :
    columns.any (·.name == name) = true ↔ name ∈ names columns := by
  simp [names]

theorem nodup_concat {columns : List Column} {c : Column} (hnodup : (names columns).Nodup)
    (hnew : c.name ∉ names columns) : (names (columns ++ [c])).Nodup := by
  rw [names, List.map_append, List.nodup_append]
  refine ⟨hnodup, List.nodup_singleton _, ?_⟩
  intro name hname other hother heq
  rw [List.map_singleton, List.mem_singleton] at hother
  rw [heq, hother] at hname
  exact hnew hname

/-! ### Columns of rows -/

def columnsOfCell (columns : List Column) (p : String × Value) : List Column :=
  if p.2.isNull || columns.any (·.name == p.1) then columns
  else columns ++ [⟨p.1, Column.typeOf p.2⟩]

theorem columnsOfRow_eq (columns : List Column) (row : Row) :
    columnsOfRow columns row = row.foldl columnsOfCell columns := rfl

/-- Distinct columns with the names of `columns` and those that are `shown`. -/
structure Extends (columns : List Column) (shown : String → Prop) (columns' : List Column) :
    Prop where
  nodup : (names columns').Nodup
  mem_iff : ∀ name, name ∈ names columns' ↔ name ∈ names columns ∨ shown name

theorem extends_columnsOfCell {columns : List Column} (hnodup : (names columns).Nodup)
    (p : String × Value) :
    Extends columns (fun name => name = p.1 ∧ p.2.isNull = false) (columnsOfCell columns p) := by
  unfold columnsOfCell
  cases hnull : p.2.isNull with
  | true =>
      rw [Bool.true_or, if_pos rfl]
      exact ⟨hnodup, by simp⟩
  | false =>
      rw [Bool.false_or]
      by_cases hmem : p.1 ∈ names columns
      · rw [if_pos (any_name_iff.mpr hmem)]
        refine ⟨hnodup, fun name => ⟨.inl, ?_⟩⟩
        rintro (hname | ⟨rfl, -⟩)
        · exact hname
        · exact hmem
      · rw [if_neg fun hany => hmem (any_name_iff.mp hany)]
        exact ⟨nodup_concat hnodup hmem, fun name => by simp [names]⟩

theorem extends_foldl {α : Type} {take : List Column → α → List Column}
    {shown : α → String → Prop}
    (hstep : ∀ columns a, (names columns).Nodup → Extends columns (shown a) (take columns a))
    (as : List α) {columns : List Column} (hnodup : (names columns).Nodup) :
    Extends columns (fun name => ∃ a ∈ as, shown a name) (as.foldl take columns) := by
  induction as generalizing columns with
  | nil => exact ⟨hnodup, by simp⟩
  | cons a as ih =>
      have hfirst := hstep columns a hnodup
      have hrest := ih hfirst.nodup
      refine ⟨hrest.nodup, fun name => ?_⟩
      rw [List.foldl_cons, hrest.mem_iff, hfirst.mem_iff, or_assoc, List.exists_mem_cons_iff]

theorem extends_inferColumns (rows : List Row) :
    Extends [] (fun name => ∃ row ∈ rows, ∃ p ∈ row, name = p.1 ∧ p.2.isNull = false)
      (inferColumns rows) := by
  refine extends_foldl (fun columns row hnodup => ?_) rows List.nodup_nil
  rw [columnsOfRow_eq]
  exact extends_foldl (fun columns p hnodup => extends_columnsOfCell hnodup p) row hnodup

theorem exists_mem_of_get {row : Row} {name : String} (h : (Row.get row name).isNull = false) :
    ∃ p ∈ row, name = p.1 ∧ p.2.isNull = false := by
  unfold Row.get at h
  cases hget : Named.get? row name with
  | none =>
      rw [hget] at h
      cases h
  | some v =>
      rw [hget] at h
      exact ⟨(name, v), mem_of_lookup_eq_some hget, rfl, h⟩

/-- A table made of rows declares their names. -/
theorem ofRows_isDeclared (rows : List Row) (totalFound : Option Int) (offset limit : Int)
    (name : String) : (ofRows rows totalFound offset limit name).IsDeclared := by
  have hcolumns := extends_inferColumns rows
  refine ⟨hcolumns.nodup, fun row hrow name hname => ?_⟩
  exact (hcolumns.mem_iff name).mpr (.inr ⟨row, hrow, exists_mem_of_get hname⟩)

/-! ### Further columns -/

theorem extends_addColumn {t : Table} (hnodup : (names t.columns).Nodup) (c : Column) :
    Extends t.columns (· = c.name) (t.addColumn c).columns := by
  unfold addColumn
  by_cases hmem : c.name ∈ names t.columns
  · rw [if_pos (any_name_iff.mpr hmem)]
    refine ⟨hnodup, fun name => ⟨.inl, ?_⟩⟩
    rintro (hname | rfl)
    · exact hname
    · exact hmem
  · rw [if_neg fun hany => hmem (any_name_iff.mp hany)]
    exact ⟨nodup_concat hnodup hmem, fun name => by simp [names]⟩

end Table

namespace Engine

open Table

variable {σ : Type}

/-- A table of a run with the rows that were fetched for it. -/
structure Stage where
  fetched : List Row
  table : Table

/-- The tables of expansions one after the other, up to the first failure. -/
def stages (x : Engine σ) : List Expansion → Table → σ → List Stage
  | [], _, _ => []
  | e :: es, t, s =>
    match (x.expand t e s).1.outcome with
    | .error _ => []
    | .ok after =>
      ⟨(x.exchanges t e s).flatMap Exchange.rows, after⟩ :: x.stages es after (x.expand t e s).2

/-- The fetched rows that are merged into a table have no names but declared ones and the mark. -/
def Stage.Fits (stage : Stage) (h : Hierarchy) (columns : List Column) : Prop :=
  ∀ row ∈ stage.fetched, h.markExpanded row ∈ stage.table.rows →
    ∀ name, (Row.get row name).isNull = false → name ∈ names columns ∨ name = h.isExpanded

theorem extends_withMerged (h : Hierarchy) {t : Table} (hnodup : (names t.columns).Nodup)
    (placed : List Placed) :
    Extends t.columns (· = h.isExpanded) (withMerged h t placed).columns :=
  extends_addColumn (t := { t with rows := placed.map fun p => p.node.row }) hnodup
    ⟨h.isExpanded, .boolean⟩

theorem Gathered.row_cases {x : Engine σ} {t : Table} {e : Expansion} {exchanges : List Exchange}
    {f : Family} (h : x.Gathered t.rows e exchanges (.ok f)) {row : Row}
    (hrow : row ∈ (withMerged x.hierarchy t f.merge).rows) :
    row ∈ t.rows ∨
      ∃ fetched ∈ exchanges.flatMap Exchange.rows, row = x.hierarchy.markExpanded fetched := by
  have hread := h.readOff
  have hpage : ∀ n ∈ f.page, n.row ∈ t.rows := by
    intro n hn
    obtain ⟨i, row, hget, rfl⟩ := hread.mem_page.mp hn
    exact List.mem_of_getElem? hget
  rw [rows_withMerged] at hrow
  obtain ⟨p, hp, rfl⟩ := List.mem_map.mp hrow
  rw [← h.hierarchy_eq]
  rcases Family.offer_of_mem_merge hp with haside | hmem
  · cases haside with
    | hit mem id_ne note => exact .inl (hpage _ mem)
    | parent mem note =>
        obtain ⟨fetched, hfetched, rfl⟩ := hread.parent_fetched _ mem
        exact .inr ⟨fetched, hfetched, rfl⟩
    | child mem note =>
        obtain ⟨fetched, hfetched, rfl⟩ := hread.child_fetched _ _ mem
        exact .inr ⟨fetched, hfetched, rfl⟩
  · exact .inl (hpage _ hmem)

/-- An expansion adds no column but the one for its mark. -/
theorem expand_columns (x : Engine σ) {t after : Table} (hnodup : (names t.columns).Nodup)
    (e : Expansion) (s : σ) (hok : (x.expand t e s).1.outcome = .ok after) :
    (names after.columns).Nodup ∧
      ∀ name, name ∈ names after.columns ∨ name = x.hierarchy.isExpanded ↔
        name ∈ names t.columns ∨ name = x.hierarchy.isExpanded := by
  rcases x.expand_cases t e s with ⟨-, -, hsame⟩ | ⟨f, -, -, hmerged⟩ | ⟨cause, -, -, herror⟩
  · obtain rfl := Except.ok.inj (hsame.symm.trans hok)
    exact ⟨hnodup, fun name => Iff.rfl⟩
  · obtain rfl := Except.ok.inj (hmerged.symm.trans hok)
    have hcolumns := extends_withMerged x.hierarchy hnodup f.merge
    refine ⟨hcolumns.nodup, fun name => ?_⟩
    rw [hcolumns.mem_iff, or_assoc, or_self]
  · rw [herror] at hok
    cases hok

/-- An expansion keeps columns declared exactly if the merged rows fit them. -/
theorem expand_isDeclared_iff (x : Engine σ) {t after : Table} (ht : t.IsDeclared) (e : Expansion)
    (s : σ) (hok : (x.expand t e s).1.outcome = .ok after) :
    after.IsDeclared ↔
      Stage.Fits ⟨(x.exchanges t e s).flatMap Exchange.rows, after⟩ x.hierarchy t.columns := by
  rcases x.expand_cases t e s with ⟨-, hnone, hsame⟩ | ⟨f, -, hgathered, hmerged⟩ |
    ⟨cause, -, -, herror⟩
  · obtain rfl := Except.ok.inj (hsame.symm.trans hok)
    rw [hnone]
    exact iff_of_true ht fun row hrow => absurd hrow List.not_mem_nil
  · obtain rfl := Except.ok.inj (hmerged.symm.trans hok)
    have hcolumns := extends_withMerged x.hierarchy ht.nodup f.merge
    constructor
    · intro hafter row _ hrow name hname
      by_cases hmark : name = x.hierarchy.isExpanded
      · exact .inr hmark
      · rw [← x.hierarchy.get_markExpanded_of_ne row hmark] at hname
        exact (hcolumns.mem_iff name).mp (hafter.declared _ hrow name hname)
    · intro hfits
      refine ⟨hcolumns.nodup, fun row hrow name hname => ?_⟩
      rw [hcolumns.mem_iff]
      rcases hgathered.row_cases hrow with hpage | ⟨fetched, hfetched, rfl⟩
      · exact .inl (ht.declared row hpage name hname)
      · by_cases hmark : name = x.hierarchy.isExpanded
        · exact .inr hmark
        · rw [x.hierarchy.get_markExpanded_of_ne fetched hmark] at hname
          exact hfits fetched hfetched hrow name hname
  · rw [herror] at hok
    cases hok

theorem stages_nodup (x : Engine σ) (es : List Expansion) {t : Table}
    (hnodup : (names t.columns).Nodup) (s : σ) :
    ∀ stage ∈ x.stages es t s, (names stage.table.columns).Nodup := by
  induction es generalizing t s with
  | nil => exact List.forall_mem_nil _
  | cons e es ih =>
      unfold stages
      cases hok : (x.expand t e s).1.outcome with
      | error f => exact List.forall_mem_nil _
      | ok after =>
          have hafter := (x.expand_columns hnodup e s hok).1
          exact List.forall_mem_cons.mpr ⟨hafter, ih hafter _⟩

theorem stages_isDeclared_of (x : Engine σ) (es : List Expansion) {t : Table} (ht : t.IsDeclared)
    (s : σ) :
    (∀ stage ∈ x.stages es t s, stage.table.IsDeclared) ↔
      ∀ stage ∈ x.stages es t s, stage.Fits x.hierarchy t.columns := by
  induction es generalizing t s with
  | nil => simp [stages]
  | cons e es ih =>
      unfold stages
      cases hok : (x.expand t e s).1.outcome with
      | error f => simp
      | ok after =>
          have hfirst := x.expand_isDeclared_iff ht e s hok
          have hsame := (x.expand_columns ht.nodup e s hok).2
          dsimp only
          rw [List.forall_mem_cons, List.forall_mem_cons, hfirst]
          -- Later rows are measured by the columns of the page, to which only the mark was added.
          refine and_congr_right fun hfits => ?_
          rw [ih (hfirst.mpr hfits)]
          refine forall₂_congr fun stage _ => ?_
          simp only [Stage.Fits, hsame]

/-- However often a page made of rows is expanded, its columns stay distinct, and they stay declared
exactly if no fetched row that is merged has a name that is not among them, other than that of the
mark. -/
theorem stages_isDeclared_iff (x : Engine σ) (es : List Expansion) (rows : List Row)
    (totalFound : Option Int) (offset limit : Int) (name : String) (s : σ) :
    let page := ofRows rows totalFound offset limit name
    page.IsDeclared ∧
      (∀ stage ∈ x.stages es page s, (names stage.table.columns).Nodup) ∧
      ((∀ stage ∈ x.stages es page s, stage.table.IsDeclared) ↔
        ∀ stage ∈ x.stages es page s, stage.Fits x.hierarchy page.columns) := by
  have hpage := ofRows_isDeclared rows totalFound offset limit name
  exact ⟨hpage, x.stages_nodup es hpage.nodup s, x.stages_isDeclared_of es hpage s⟩

def onlyChild : Row := [("id", .text "C1"), ("parent_id", .text "P")]

/-- A parent that says that it is one. -/
def soleParent : Row := [("id", .text "P"), ("is_parent", .bool true)]

def nursery : Engine Unit where
  source := .ofFunction fun _ => .ok (.ofRows [soleParent])

def nurseryGathered : Family where
  hierarchy := nursery.hierarchy
  expansion := { mode := .parent }
  page := [nursery.hierarchy.node (.hit 0) onlyChild]
  parents := [nursery.hierarchy.node .fetched soleParent]

theorem gather_onlyChild :
    (nursery.gather [onlyChild] { mode := .parent } ()).1.1 = .ok nurseryGathered := rfl

/-- The parent is merged with a cell for which there is no column. -/
theorem nursery_not_declared :
    (∀ ex ∈ nursery.exchanges (.ofRows [onlyChild]) { mode := .parent } (),
        ∃ reply, ex.answer = .ok reply) ∧
      ∃ after, (nursery.expand (.ofRows [onlyChild]) { mode := .parent } ()).1.outcome =
          .ok after ∧
        after.rows = [nursery.hierarchy.markExpanded soleParent, onlyChild] ∧
        names after.columns = ["id", "parent_id", "is_expanded"] ∧ ¬ after.IsDeclared := by
  have hbusy : ¬ nursery.Idle (.ofRows [onlyChild]) { mode := .parent } :=
    nursery.not_idle Expansion.Mode.noConfusion (List.cons_ne_nil _ _) (by decide)
  have hrows : (withMerged nursery.hierarchy (.ofRows [onlyChild]) nurseryGathered.merge).rows =
      [nursery.hierarchy.markExpanded soleParent, onlyChild] := rfl
  have hcolumns : names
      (withMerged nursery.hierarchy (.ofRows [onlyChild]) nurseryGathered.merge).columns =
        ["id", "parent_id", "is_expanded"] := rfl
  refine ⟨fun ex hex => ?_, _, nursery.expand_of_gather hbusy gather_onlyChild, hrows, hcolumns,
    fun h => ?_⟩
  · obtain ⟨_, hs⟩ := nursery.genuine_of_mem_exchanges hex
    exact ⟨_, hs.symm⟩
  · have hdeclared := h.declared (nursery.hierarchy.markExpanded soleParent)
      (hrows ▸ List.mem_cons_self) "is_parent" rfl
    rw [hcolumns] at hdeclared
    exact absurd hdeclared (by decide)

end Engine

end CriteriaSearch
