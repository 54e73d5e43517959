import CriteriaSearch.Proofs.Page.TwoLevels

/-!
# Expansions over an index of two levels

A source that answers from an index of two levels brings what the page lacks: the request for
parents finds all that are missing, and the request for the children of a parent those that are not
known. An expansion of both sides therefore closes the page.
-/

namespace CriteriaSearch

namespace Engine

open Index

variable {σ : Type} {x : Engine σ} {docs rows : List Row} {e : Expansion}
  {exchanges : List Exchange}

/-- Whatever its state is, the source of an engine answers from an index. -/
def Searches (x : Engine σ) (docs : List Row) : Prop :=
  ∀ r s, ∃ t, (x.source.fetch r s).1 = .ok t ∧ t.rows = answer docs r

theorem Searches.answered (h : x.Searches docs) (hgenuine : ∀ ex ∈ exchanges, x.Genuine ex) :
    Answered exchanges := by
  intro ex hex
  obtain ⟨s, hs⟩ := hgenuine ex hex
  obtain ⟨t, ht, -⟩ := h ex.request s
  exact ⟨t, hs.symm.trans ht⟩

theorem Searches.rows_eq (h : x.Searches docs) {r : Request} {t : Table}
    (hgenuine : x.Genuine (.answered r t)) : t.rows = answer docs r := by
  obtain ⟨s, hs⟩ := hgenuine
  obtain ⟨t', ht', hrows⟩ := h r s
  obtain rfl := Except.ok.inj (hs.symm.trans ht')
  exact hrows

theorem Searches.rows_subset (h : x.Searches docs) (hgenuine : ∀ ex ∈ exchanges, x.Genuine ex) :
    exchanges.flatMap Exchange.rows ⊆ docs := by
  intro row hrow
  obtain ⟨⟨r, answer⟩, hex, hrow⟩ := List.mem_flatMap.mp hrow
  cases answer with
  | error f => cases hrow
  | ok t => exact answer_subset docs r (h.rows_eq (hgenuine _ hex) ▸ hrow)

/-- An expansion of both sides over an index of two levels, with room for all children of a
root. -/
structure Covers (x : Engine σ) (docs : List Row) (e : Expansion) : Prop where
  hierarchy_eq : x.hierarchy = {}
  two : TwoLevels docs
  searches : x.Searches docs
  mode_eq : e.mode = .both
  offset_eq : e.offset = 0
  room : ∀ root ∈ docs, flagged root = true →
    ((docs.filter (parentId · = docId root)).length : Int) ≤ e.limit

namespace Covers

variable (h : x.Covers docs e)

include h

theorem withParents : e.includesParents = true := by simp [Expansion.includesParents, h.mode_eq]

theorem withChildren : e.includesChildren = true := by simp [Expansion.includesChildren, h.mode_eq]

theorem length_children_le {parent : String} (hne : parent ≠ "") :
    (docs.filter (parentId · = parent)).length ≤ e.limit.toNat := by
  cases hfilter : docs.filter (parentId · = parent) with
  | nil => exact Nat.zero_le _
  | cons d rest =>
      have hd : d ∈ docs.filter (parentId · = parent) := hfilter ▸ List.mem_cons_self
      obtain ⟨hdocs, hparent⟩ := List.mem_filter.mp hd
      simp only [decide_eq_true_eq] at hparent
      obtain ⟨root, hroot, hflag, -, hid⟩ := h.two.exists_root hdocs (hparent ▸ hne)
      have hroom := h.room root hroot hflag
      rw [hid, hparent, hfilter] at hroom
      omega

theorem mem_foundParents {page : List Node} {found : Option (Nat × List Node)}
    (hstep : x.ParentStep e page exchanges (.ok found))
    (hgenuine : ∀ ex ∈ exchanges, x.Genuine ex) (q : Node) :
    q ∈ foundParents found ↔
      ∃ d ∈ docs, docId d ∈ Supplement.missingParents page ∧
        q = ({} : Hierarchy).node .fetched d := by
  cases hstep with
  | skipped off =>
      rw [h.withParents] at off
      cases off
  | complete _ nil => simp [foundParents, nil]
  | @fetched r t _ ne_nil request =>
      have hrows : t.rows = docs.filter (docId · ∈ Supplement.missingParents page) := by
        rw [h.searches.rows_eq (hgenuine _ List.mem_cons_self)]
        unfold parentRequest at request
        rw [h.hierarchy_eq] at request
        cases hquery : Query.compile x.settings
            (Supplement.parentCriteria {} (Supplement.missingParents page)) with
        | error cause =>
            rw [hquery] at request
            cases request
        | ok query =>
            rw [hquery] at request
            obtain rfl := Except.ok.inj request
            exact answer_parents h.two.ids_nodup ne_nil hquery
      simp only [foundParents, Option.map_some, Option.getD_some, nodes, hrows, h.hierarchy_eq,
        List.mem_map, List.mem_filter, decide_eq_true_eq]
      constructor
      · rintro ⟨d, ⟨hd, hid⟩, rfl⟩
        exact ⟨d, hd, hid, rfl⟩
      · rintro ⟨d, hd, hid, rfl⟩
        exact ⟨d, ⟨hd, hid⟩, rfl⟩

variable {known : List Node} {children : Named (List Node)}

/-- The answer for a known parent has its children that are not known. -/
theorem exists_rows (hstep : x.ChildStep e known exchanges (.ok children))
    (hgenuine : ∀ ex ∈ exchanges, x.Genuine ex) {parent : String}
    (hparent : parent ∈ Supplement.parentIds known) :
    ∃ t, children.get? parent = some (Supplement.distinct (x.nodes t)) ∧
      t.rows = docs.filter fun row =>
        parentId row = parent ∧ docId row ∉ Supplement.knownChildren known parent := by
  have hne : parent ≠ "" := by
    obtain ⟨n, -, -, hne, rfl⟩ := Supplement.mem_parentIds.mp hparent
    exact hne
  obtain ⟨query, t, hquery, hex, hget⟩ := hstep.exists_answer h.withChildren hparent
  rw [h.hierarchy_eq] at hquery
  refine ⟨t, hget, ?_⟩
  rw [h.searches.rows_eq (hgenuine _ hex), h.offset_eq]
  exact answer_children (h.length_children_le hne) hquery

/-- No child is lost as a duplicate, since documents with one key are the same. -/
theorem mem_distinct {t : Table} (hrows : t.rows ⊆ docs) (c : Node) :
    c ∈ Supplement.distinct (x.nodes t) ↔ ∃ d ∈ t.rows, c = ({} : Hierarchy).node .fetched d := by
  constructor
  · intro hc
    obtain ⟨d, hd, rfl⟩ := List.mem_map.mp ((eraseDupsBy_sublist _ _).subset hc)
    exact ⟨d, hd, by rw [h.hierarchy_eq]⟩
  · rintro ⟨d, hd, rfl⟩
    have hnode : ({} : Hierarchy).node .fetched d ∈ x.nodes t := by
      rw [nodes, h.hierarchy_eq]
      exact List.mem_map_of_mem hd
    obtain ⟨b, hb, hkey⟩ := exists_mem_eraseDupsBy (r := fun a b : Node => a.key == b.key)
      (fun a => beq_self_eq_true a.key) hnode
    obtain ⟨d', hd', rfl⟩ := List.mem_map.mp ((eraseDupsBy_sublist _ _).subset hb)
    rw [h.hierarchy_eq] at hb hkey
    obtain rfl := h.two.eq_of_docId (hrows hd) (hrows hd')
      (Node.id_eq_of_key (by simpa using hkey))
    exact hb

theorem mem_children (hstep : x.ChildStep e known exchanges (.ok children))
    (hgenuine : ∀ ex ∈ exchanges, x.Genuine ex) (parent : String) (c : Node) :
    c ∈ (children.get? parent).getD [] ↔ parent ∈ Supplement.parentIds known ∧
      ∃ d ∈ docs, parentId d = parent ∧ docId d ∉ Supplement.knownChildren known parent ∧
        c = ({} : Hierarchy).node .fetched d := by
  by_cases hparent : parent ∈ Supplement.parentIds known
  · obtain ⟨t, hget, hrows⟩ := h.exists_rows hstep hgenuine hparent
    have hsubset : t.rows ⊆ docs := hrows ▸ List.filter_sublist.subset
    rw [hget, Option.getD_some, h.mem_distinct hsubset, hrows]
    simp [hparent, and_assoc]
  · have hnone : children.get? parent = none := by
      cases hget : children.get? parent with
      | none => rfl
      | some found => exact absurd (hstep.mem_parentIds hget).2 hparent
    simp [hnone, hparent]

theorem gathers (hrows : rows ⊆ docs) {f : Family} (hgathered : x.Gathered rows e exchanges (.ok f))
    (hgenuine : ∀ ex ∈ exchanges, x.Genuine ex) : Gathers docs rows f := by
  cases hgathered.supplied_of_ok with
  | @complete xs ys found children parents rest =>
      have hxs : ∀ ex ∈ xs, x.Genuine ex := fun ex hex =>
        hgenuine ex (List.mem_append_left ys hex)
      have hys : ∀ ex ∈ ys, x.Genuine ex := fun ex hex =>
        hgenuine ex (List.mem_append_right xs hex)
      have hpage : (x.pageOf rows).Perm (({} : Hierarchy).page rows) := by
        rw [pageOf, h.hierarchy_eq]
        exact reconcile_perm _
      exact ⟨h.two, hrows, h.hierarchy_eq, h.withParents, h.withChildren, hpage,
        h.mem_foundParents parents hxs, fun parent => h.mem_children rest hys parent.id⟩

end Covers

/-- An expansion of both sides over an index of two levels closes the page. -/
theorem expand_closes (x : Engine σ) (hhierarchy : x.hierarchy = {}) {docs : List Row}
    (two : TwoLevels docs) (hsource : x.Searches docs) (t : Table) (hpage : t.rows ⊆ docs)
    (limit : Int) (hlimit : ∀ root ∈ docs, flagged root = true →
      ((docs.filter (parentId · = docId root)).length : Int) ≤ limit) (s : σ) :
    ∃ after, (x.expand t { mode := .both, offset := 0, limit } s).1.outcome = .ok after ∧
      Closes docs t.rows after.rows := by
  have hcovers : x.Covers docs { mode := .both, offset := 0, limit } :=
    ⟨hhierarchy, two, hsource, rfl, rfl, hlimit⟩
  have hgenuine : ∀ ex ∈ x.exchanges t { mode := .both, offset := 0, limit } s, x.Genuine ex :=
    fun ex hex => x.genuine_of_mem_exchanges hex
  rcases x.expand_cases t { mode := .both, offset := 0, limit } s with
    ⟨hidle, -, hok⟩ | ⟨f, -, hgathered, hok⟩ | ⟨cause, -, hgathered, -⟩
  · have hrows : t.rows = [] := by
      rcases hidle with hmode | hrows | hid
      · cases hmode
      · exact hrows
      · refine List.eq_nil_iff_forall_not_mem.mpr fun row hrow => ?_
        have hcolumn := Table.hasColumn_of_cellText_ne hrow (two.id_ne row (hpage hrow))
        rw [hhierarchy] at hid
        exact absurd (hcolumn.symm.trans hid) (by decide)
    exact ⟨t, hok, hrows ▸ closes_nil docs⟩
  · refine ⟨_, hok, ?_⟩
    rw [rows_withMerged]
    exact (hcovers.gathers hpage hgathered hgenuine).closes
  · have hplain : x.hierarchy.Plain := by
      rw [hhierarchy]
      exact ⟨by decide, by decide⟩
    rcases hgathered.cases_of_answered hplain (hsource.answered hgenuine) with
      ⟨f, hf⟩ | ⟨-, row, hrow, hnot⟩ | ⟨-, hdeep⟩
    · cases hf
    · have hdoc : row ∈ docs := (List.mem_append.mp hrow).elim (fun hmem => hpage hmem)
        fun hmem => hsource.rows_subset hgenuine hmem
      rw [hhierarchy] at hnot
      exact absurd (two.isLegible hdoc) hnot
    · rw [hhierarchy] at hdeep
      exact absurd (two.shallow hpage x.room_for_two) hdeep

/-- Two roots, the first one with two children. -/
def library : List Row :=
  [[("id", .text "A"), ("is_parent", .bool true)],
    [("id", .text "A-1"), ("parent_id", .text "A")],
    [("id", .text "A-2"), ("parent_id", .text "A")],
    [("id", .text "B"), ("is_parent", .bool true)]]

def librarian : Engine Unit where
  source := .ofFunction fun r => .ok { rows := answer library r }

/-- A page with a child of the first root and the second root. -/
def shelf : Table where
  rows := [[("id", .text "A-2"), ("parent_id", .text "A")],
    [("id", .text "B"), ("is_parent", .bool true)]]

theorem twoLevels_library : TwoLevels library := by
  refine ⟨by decide, ?_, ?_⟩
  · simp only [library, List.forall_mem_cons]
    decide
  · simp only [library, List.forall_mem_cons]
    refine ⟨.inl (by decide), .inr ⟨by decide, _, List.mem_cons_self, by decide⟩,
      .inr ⟨by decide, _, List.mem_cons_self, by decide⟩, .inl (by decide), by simp⟩

theorem librarian_expand_closes :
    ∃ after, (librarian.expand shelf { mode := .both, offset := 0, limit := 2 } ()).1.outcome =
      .ok after ∧ Closes library shelf.rows after.rows := by
  refine expand_closes librarian rfl twoLevels_library (fun r s => ⟨_, rfl, rfl⟩) shelf ?_ 2 ?_ ()
  · simp [shelf, library]
  · simp only [library, List.forall_mem_cons]
    decide

end Engine

end CriteriaSearch
