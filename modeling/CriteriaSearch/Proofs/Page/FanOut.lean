import CriteriaSearch.Proofs.Page.Requests
import CriteriaSearch.Proofs.Search.Gathering

/-!
# Which fetches an expansion makes

With one worker and a source that answers every time, the fetches of an expansion are known from the
page and the parents that are fetched: at most one for all missing parents, and then one for each
parent whose children are asked for.
-/

namespace CriteriaSearch

namespace Supplement

/-! ### Ids in the order of their first appearance -/

theorem firstsOf_missingParents (page : List Node) :
    FirstsOf (page.map Node.parent) (fun p => p ≠ "" ∧ ∀ n ∈ page, n.id ≠ p)
      (missingParents page) :=
  firstsOf_eraseDups _ fun p => by simp

theorem firstsOf_parentIds (known : List Node) :
    FirstsOf ((known.filter (·.isParent)).map Node.id) (· ≠ "") (parentIds known) := by
  have hids : (known.filter fun n => n.isParent && n.id != "").map Node.id =
      ((known.filter (·.isParent)).map Node.id).filter (· != "") := by
    rw [List.filter_map, List.filter_filter]
    refine congrArg (List.map Node.id) (List.filter_congr fun n _ => ?_)
    rw [Bool.and_comm]
    rfl
  rw [parentIds, hids]
  exact firstsOf_eraseDups _ fun id => by simp

theorem firstsOf_knownChildren (known : List Node) (parent : String) :
    FirstsOf ((known.filter (·.parent == parent)).map Node.id) (· ≠ "")
      (knownChildren known parent) := by
  have hids : (known.filter fun n => n.parent == parent && n.id != "").map Node.id =
      ((known.filter (·.parent == parent)).map Node.id).filter (· != "") := by
    rw [List.filter_map, List.filter_filter]
    refine congrArg (List.map Node.id) (List.filter_congr fun n _ => ?_)
    rw [Bool.and_comm]
    rfl
  rw [knownChildren, hids]
  exact firstsOf_eraseDups _ fun id => by simp

end Supplement

namespace Engine

open Supplement

variable {σ : Type} (x : Engine σ)

/-- The fetch for parents with the given ids. -/
def parentsFetch (ids : List String) : Request where
  query := queryOf x.settings (Query.endpointOf x.settings.requestHandler)
    [x.hierarchy.id ++ ":" ++ Clause.listText ids] ids.length

/-- The fetch for the children of a parent apart from those that are known. -/
def childrenFetch (e : Expansion) (parent : String) (known : List String) : Request where
  query := queryOf x.settings (Query.endpointOf x.settings.requestHandler)
    ((x.hierarchy.parent ++ ":" ++ Clause.escape parent) ::
      if known = [] then [] else ["-" ++ x.hierarchy.id ++ ":" ++ Clause.listText known]) 10
  offset := some e.offset
  limit := some e.limit

section Requests

variable {x} (hplain : x.hierarchy.Plain)

include hplain

theorem parentRequest_eq {ids : List String} (hne : ids ≠ []) :
    x.parentRequest ids = .ok (x.parentsFetch ids) := by
  rw [parentRequest, compile_parentCriteria x.settings hplain hne]
  rfl

theorem childRequests_eq_map (e : Expansion) (known : List Node) (parents : List String) :
    x.childRequests e known parents =
      .ok (parents.map fun p => x.childrenFetch e p (knownChildren known p)) := by
  apply mapM_eq_ok_iff.mpr
  rw [List.map_map]
  refine List.map_congr_left fun p _ => ?_
  rw [compile_childCriteria x.settings hplain known p]
  rfl

/-- There are requests for the children of all parents unless a known row cannot be read. -/
theorem requestChildren_cases (e : Expansion) (known : List Node) :
    x.requestChildren e known =
        .ok ((parentIds known).map fun p => x.childrenFetch e p (knownChildren known p)) ∨
      x.requestChildren e known = .error .unwritable ∧
        ∃ n ∈ known, ¬ x.hierarchy.IsLegible n.row := by
  unfold requestChildren
  dsimp only
  rcases Hierarchy.texts_cases [x.hierarchy.id] (known.map Node.row) with
    ⟨-, ids, hids⟩ | ⟨⟨row, hrow, name, hname, hnot⟩, hids⟩
  · rw [hids]
    cases hparents : parentIds known with
    | nil => exact .inl rfl
    | cons p ps =>
        rcases Hierarchy.texts_cases x.hierarchy.keyNames (known.map Node.row) with
          ⟨-, keys, hkeys⟩ | ⟨⟨row, hrow, name, hname, hnot⟩, hkeys⟩
        · left
          simp only [bind, Except.bind, hkeys, childRequests_eq_map hplain]
        · obtain ⟨n, hn, rfl⟩ := List.mem_map.mp hrow
          refine .inr ⟨?_, n, hn, fun hlegible => hnot (hlegible name hname)⟩
          simp only [bind, Except.bind, hkeys]
  · obtain ⟨n, hn, rfl⟩ := List.mem_map.mp hrow
    rw [List.mem_singleton.mp hname] at hnot
    refine .inr ⟨?_, n, hn, fun hlegible => hnot (Hierarchy.isLegible_iff.mp hlegible).1⟩
    rw [hids]
    rfl

end Requests

/-! ### Fetches -/

/-- The fetch for missing parents, if there is any, and the rows that it brings. -/
inductive ParentFetch (e : Expansion) (page : List Node) : List Exchange → List Node → Prop
  | none (unneeded : e.includesParents = true →
      ∀ n ∈ page, n.parent = "" ∨ ∃ m ∈ page, m.id = n.parent) : ParentFetch e page [] []
  | one {ids : List String} {t : Table} (on : e.includesParents = true) (ne_nil : ids ≠ [])
      (missing : FirstsOf (page.map Node.parent) (fun p => p ≠ "" ∧ ∀ n ∈ page, n.id ≠ p) ids) :
      ParentFetch e page [.answered (x.parentsFetch ids) t] (x.nodes t)

/-- The fetches for children: one for each parent among the known rows. -/
inductive ChildFetches (e : Expansion) (known : List Node) : List Request → Prop
  | none (off : e.includesChildren = false) : ChildFetches e known []
  | each {parents : List String} {requests : List Request} (on : e.includesChildren = true)
      (ids : FirstsOf ((known.filter (·.isParent)).map Node.id) (· ≠ "") parents)
      (asked : List.Forall₂ (fun p r => ∃ children,
        FirstsOf ((known.filter (·.parent == p)).map Node.id) (· ≠ "") children ∧
          r = x.childrenFetch e p children) parents requests) :
      ChildFetches e known requests

section Steps

variable {x} (hplain : x.hierarchy.Plain) {e : Expansion}

include hplain

theorem ParentStep.fetch {page : List Node} {exchanges : List Exchange}
    {result : Except Failure (Option (Nat × List Node))}
    (h : x.ParentStep e page exchanges result) (hanswered : Answered exchanges) :
    ∃ found, result = .ok found ∧ x.ParentFetch e page exchanges (foundParents found) := by
  cases h with
  | skipped off => exact ⟨_, rfl, .none fun on => by simp [off] at on⟩
  | complete on nil =>
      refine ⟨_, rfl, .none fun _ n hn => ?_⟩
      by_cases hparent : n.parent = ""
      · exact .inl hparent
      · right
        by_contra hnot
        have hmissing : n.parent ∈ missingParents page :=
          mem_missingParents.mpr ⟨⟨n, hn, rfl⟩, hparent, fun m hm heq => hnot ⟨m, hm, heq⟩⟩
        rw [nil] at hmissing
        cases hmissing
  | refused on ne_nil refusal =>
      rw [parentRequest_eq hplain ne_nil] at refusal
      cases refusal
  | fetched on ne_nil request =>
      rw [parentRequest_eq hplain ne_nil] at request
      obtain rfl := Except.ok.inj request
      exact ⟨_, rfl, .one on ne_nil (firstsOf_missingParents page)⟩
  | failed on request =>
      obtain ⟨t, ht⟩ := hanswered _ List.mem_cons_self
      cases ht

end Steps

theorem InTurn.map_request {requests : List Request} {exchanges : List Exchange}
    {result : Except Failure (List Table)} (h : InTurn requests exchanges result)
    (hanswered : Answered exchanges) : exchanges.map Exchange.request = requests := by
  induction h with
  | done => rfl
  | failed r rs f =>
      obtain ⟨t, ht⟩ := hanswered _ List.mem_cons_self
      cases ht
  | answered r t rest ih =>
      have hrest := ih fun ex hex => hanswered ex (List.mem_cons_of_mem _ hex)
      rw [List.map_cons, hrest]
      rfl

section OneWorker

variable {x} (hone : x.schedule = .sequential) (hplain : x.hierarchy.Plain)

include hone hplain

theorem childFetches_writes (e : Expansion) (known : List Node) :
    x.Writes (if e.includesChildren then x.journaled.fetchChildren e known else return .ok [])
      fun exchanges _ => Answered exchanges →
        x.ChildFetches e known (exchanges.map Exchange.request) ∨
          exchanges = [] ∧ e.includesChildren = true ∧
            ∃ n ∈ known, ¬ x.hierarchy.IsLegible n.row := by
  cases hon : e.includesChildren with
  | false => exact .pure fun _ => .inl (.none hon)
  | true =>
      rw [if_pos rfl]
      unfold fetchChildren
      dsimp only [journaled_requestChildren]
      rcases requestChildren_cases hplain e known with hrequests | ⟨hrequests, hillegible⟩
      · rw [hrequests]
        dsimp only [fetchAll]
        rw [journaled_schedule, hone]
        refine (x.fetchEach_inTurn _).bind fun exchanges result hturn =>
          .pure fun hanswered => .inl ?_
        rw [List.append_nil] at hanswered ⊢
        rw [hturn.map_request hanswered]
        refine .each hon (firstsOf_parentIds known) ?_
        rw [List.forall₂_map_right_iff]
        exact List.forall₂_same.mpr fun p _ => ⟨_, firstsOf_knownChildren known p, rfl⟩
      · rw [hrequests]
        exact .pure fun _ => .inr ⟨rfl, rfl, hillegible⟩

/-- The fetches of an expansion, in order: at most one for all missing parents, and then one for
each parent among the page and the rows that came. None are made for a page that cannot be put into
the order of the hierarchy, and none for children if a parent came that cannot be read. -/
theorem expand_fetches (t : Table) (hrows : t.rows ≠ []) (hid : t.hasColumn x.hierarchy.id = true)
    (e : Expansion) (hmode : e.mode ≠ .none) (s : σ) (hanswered : Answered (x.exchanges t e s)) :
    ((∀ row ∈ t.rows, x.hierarchy.IsLegible row) ∧
      ∃ first found rest, x.exchanges t e s = first ++ rest ∧
        x.ParentFetch e (x.pageOf t.rows) first found ∧
        (x.ChildFetches e (x.pageOf t.rows ++ found) (rest.map Exchange.request) ∨
          rest = [] ∧ e.includesChildren = true ∧
            ∃ n ∈ found, ¬ x.hierarchy.IsLegible n.row)) ∨
      x.exchanges t e s = [] ∧ ((∃ row ∈ t.rows, ¬ x.hierarchy.IsLegible row) ∨
        ¬ Shallow x.room (x.hierarchy.page t.rows)) := by
  have hbusy : ¬ x.Idle t e := x.not_idle hmode hrows hid
  rcases x.hierarchy.arrange_cases x.room t.rows with
    ⟨hlegible, hpage⟩ | ⟨hillegible, herror⟩ | ⟨-, hdeep, herror⟩
  · left
    have hwrites := x.supply_writes_of (x.pageOf t.rows) e (childFetches_writes hone hplain e)
    obtain ⟨exchanges, hjournal, -, hsupplied⟩ := hwrites s []
    have hexchanges : x.exchanges t e s = exchanges := by
      rw [x.exchanges_of_arranged hbusy hpage]
      exact hjournal
    rw [hexchanges] at hanswered ⊢
    rcases hsupplied with
      ⟨cause, hparents, -⟩ | ⟨first, rest, found, children, rfl, hparents, hrest, -⟩
    · obtain ⟨found, hok, -⟩ := hparents.fetch hplain hanswered
      cases hok
    · have hfirst : Answered first := fun ex hex => hanswered ex (List.mem_append_left rest hex)
      have hlast : Answered rest := fun ex hex => hanswered ex (List.mem_append_right first hex)
      obtain ⟨found', hok, hfetch⟩ := hparents.fetch hplain hfirst
      obtain rfl := Except.ok.inj hok
      refine ⟨hlegible, first, _, rest, rfl, hfetch, (hrest hlast).imp_right ?_⟩
      rintro ⟨hnone, hon, n, hn, hnot⟩
      refine ⟨hnone, hon, n, (List.mem_append.mp hn).resolve_left fun hmem => ?_, hnot⟩
      exact hnot (Hierarchy.legible_of_arrange hpage n hmem)
  · exact .inr ⟨(x.expand_of_disordered hbusy herror s).2, .inl hillegible⟩
  · exact .inr ⟨(x.expand_of_disordered hbusy herror s).2, .inr hdeep⟩

end OneWorker

/-- A parent whose children are asked for, and a child whose parent is missing. -/
def halves : Table where
  columns := [⟨"id", .text⟩, ⟨"is_parent", .boolean⟩, ⟨"parent_id", .text⟩]
  rows := [[("id", .text "a"), ("is_parent", .bool true)],
    [("id", .text "c"), ("parent_id", .text "b")]]

/-- A source that brings the missing parent, which has children to ask for as well. -/
def helpdesk : Engine Unit where
  source := .ofFunction fun _ =>
    .ok { rows := [[("id", .text "b"), ("is_parent", .bool true)]] }

theorem arrange_halves : helpdesk.hierarchy.arrange helpdesk.room halves.rows =
    .ok (helpdesk.hierarchy.page halves.rows) := rfl

theorem helpdesk_expand_fetches :
    helpdesk.hierarchy.Plain ∧ (helpdesk.exchanges halves { mode := .both } ()).map
        (fun ex => ex.request.query.filters) =
      [["id:(b)"], ["parent_id:a"], ["parent_id:b", "-id:(c)"]] ∧
    ∃ first found rest, helpdesk.exchanges halves { mode := .both } () = first ++ rest ∧
      helpdesk.ParentFetch { mode := .both } (helpdesk.pageOf halves.rows) first found ∧
      helpdesk.ChildFetches { mode := .both } (helpdesk.pageOf halves.rows ++ found)
        (rest.map Exchange.request) := by
  have hplain : helpdesk.hierarchy.Plain := ⟨by decide, by decide⟩
  have hanswered : Answered (helpdesk.exchanges halves { mode := .both } ()) := by
    intro ex hex
    obtain ⟨_, hs⟩ := helpdesk.genuine_of_mem_exchanges hex
    exact ⟨_, hs.symm⟩
  have hbusy : ¬ helpdesk.Idle halves { mode := .both } :=
    helpdesk.not_idle (by decide) (by decide) (by decide)
  have hfilters : (helpdesk.exchanges halves { mode := .both } ()).map
      (fun ex => ex.request.query.filters) =
      [["id:(b)"], ["parent_id:a"], ["parent_id:b", "-id:(c)"]] := by
    rw [helpdesk.exchanges_of_arranged hbusy arrange_halves]
    rfl
  refine ⟨hplain, hfilters, ?_⟩
  rcases expand_fetches rfl hplain halves (by decide) (by decide) { mode := .both } (by decide) ()
    hanswered with ⟨-, first, found, rest, hexchanges, hparents, hrest⟩ | ⟨hnone, -⟩
  · refine ⟨first, found, rest, hexchanges, hparents, hrest.resolve_right ?_⟩
    rintro ⟨rfl, -⟩
    have hlength := congrArg List.length hfilters
    rw [hexchanges] at hlength
    cases hparents <;> cases hlength
  · rw [hnone] at hfilters
    cases hfilters

/-- The parent of the first row of a lineage is missing, and it is not asked for if the lineage is
too long. -/
theorem helpdesk_skips_fetch :
    ¬ ∃ first found rest, helpdesk.exchanges dynasty { mode := .parent } () = first ++ rest ∧
      helpdesk.ParentFetch { mode := .parent } (helpdesk.pageOf dynasty.rows) first found := by
  have hbusy : ¬ helpdesk.Idle dynasty { mode := .parent } :=
    helpdesk.not_idle (by decide) dynasty_rows_ne_nil (by decide)
  rw [(helpdesk.expand_of_disordered hbusy arrange_dynasty ()).2, dynasty_rows]
  rintro ⟨first, found, rest, hexchanges, hparents⟩
  cases hparents with
  | none unneeded =>
      have hrange : 0 < 1200 := by decide
      have hfirst := List.mem_of_getElem? (getElem?_page_lineage hrange)
      obtain hroot | ⟨m, hm, hid⟩ := unneeded rfl _ ((reconcile_perm _).mem_iff.mpr hfirst)
      · exact rowName_ne_empty 0 hroot
      · obtain ⟨i, row, hrow, rfl⟩ := Hierarchy.mem_page.mp ((reconcile_perm _).mem_iff.mp hm)
        obtain ⟨j, -, rfl⟩ := List.mem_map.mp (List.mem_of_getElem? hrow)
        exact absurd (rowName_injective hid) j.succ_ne_zero
  | one on ne_nil missing => cases hexchanges

end Engine

end CriteriaSearch
