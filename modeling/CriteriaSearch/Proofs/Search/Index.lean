import CriteriaSearch.Proofs.Page.Requests
import Mathlib.Data.List.Perm.Subperm

/-!
# Static indexes

An index answers a request with the documents that pass all filters of its query, cut to the window.
It reads the filters that an expansion writes: conditions on ids and on the parent. What it answers
to the requests of an expansion are then the documents that are missing.
-/

namespace CriteriaSearch

namespace Index

/-! ### Documents and answers -/

def docId (row : Row) : String := Hierarchy.cellText row "id"

def parentId (row : Row) : String := Hierarchy.cellText row "parent_id"

def flagged (row : Row) : Bool := (Row.get row "is_parent").isFlag

/-- The field and the operator of a filter, told by what stands before its operands. -/
def filterOf? (clause : String) : Option (String × Operator) :=
  [("id", Operator.isIn), ("id", .notIn), ("parent_id", .equal)].find? fun (field, operator) =>
    (Clause.lead (operator == .notIn) field).toList.isPrefixOf clause.toList

/-- Whether a document passes a filter. -/
def accepts (clause : String) (row : Row) : Bool :=
  match filterOf? clause with
  | none => false
  | some (field, operator) =>
    let named := (Clause.readTexts field operator clause).contains (Hierarchy.cellText row field)
    if operator == .notIn then !named else named

/-- The documents that answer a request. -/
def answer (docs : List Row) (r : Request) : List Row :=
  let found := docs.filter fun row => r.query.filters.all (accepts · row)
  (found.drop r.windowed.offset.toNat).take r.windowed.limit.toNat

theorem answer_subset (docs : List Row) (r : Request) : answer docs r ⊆ docs := fun _ hrow =>
  List.filter_subset_self _ (List.mem_of_mem_drop (List.mem_of_mem_take hrow))

/-! ### Filters of an expansion -/

theorem accepts_isIn {values : List String} (hne : values ≠ []) (row : Row) :
    accepts ("id" ++ ":" ++ Clause.listText values) row = true ↔ docId row ∈ values := by
  have hclause : "id" ++ ":" ++ Clause.listText values =
      Clause.lead false "id" ++ Clause.listText values := by
    simp [Clause.lead]
  have hfilter : filterOf? (Clause.lead false "id" ++ Clause.listText values) =
      some ("id", .isIn) := by
    simp [filterOf?, Clause.lead]
  rw [hclause, accepts, hfilter]
  simp only
  rw [Clause.readTexts_anyOf rfl "id" hne]
  simp [docId]

theorem accepts_notIn {values : List String} (hne : values ≠ []) (row : Row) :
    accepts ("-" ++ "id" ++ ":" ++ Clause.listText values) row = true ↔ docId row ∉ values := by
  have hfilter : filterOf? (Clause.lead true "id" ++ Clause.listText values) =
      some ("id", .notIn) := by
    simp [filterOf?, Clause.lead]
  have hclause : "-" ++ "id" ++ ":" ++ Clause.listText values =
      Clause.lead true "id" ++ Clause.listText values := rfl
  rw [hclause, accepts, hfilter]
  simp only
  rw [Clause.readTexts_anyOf rfl "id" hne]
  simp [docId]

theorem accepts_equal (parent : String) (row : Row) :
    accepts ("parent_id" ++ ":" ++ Clause.escape parent) row = true ↔ parentId row = parent := by
  have hclause : "parent_id" ++ ":" ++ Clause.escape parent =
      Clause.lead false "parent_id" ++ ("" ++ Clause.escape parent ++ "") := by
    simp [Clause.lead]
  have hfilter : filterOf? (Clause.lead false "parent_id" ++ ("" ++ Clause.escape parent ++ "")) =
      some ("parent_id", .equal) := by
    simp [filterOf?, Clause.lead]
  rw [hclause, accepts, hfilter]
  simp only
  rw [Clause.readTexts_single rfl "parent_id" parent]
  simp [parentId]

/-! ### Answers to the requests of an expansion -/

variable {docs : List Row}

theorem answer_of_length_le {r : Request} {p : Row → Bool} (hoffset : r.windowed.offset = 0)
    (hfilters : ∀ row, r.query.filters.all (accepts · row) = p row)
    (hlimit : (docs.filter p).length ≤ r.windowed.limit.toNat) :
    answer docs r = docs.filter p := by
  simp only [answer, hfilters, hoffset]
  exact List.take_of_length_le hlimit

/-- There is room for all documents that are asked for by id. -/
theorem length_filter_docId_le (hnodup : (docs.map docId).Nodup) (ids : List String) :
    (docs.filter (docId · ∈ ids)).length ≤ ids.length := by
  have hsub : ((docs.filter (docId · ∈ ids)).map docId).Nodup :=
    hnodup.sublist (List.filter_sublist.map docId)
  have hsubset : (docs.filter (docId · ∈ ids)).map docId ⊆ ids := by
    intro id hid
    obtain ⟨row, hrow, rfl⟩ := List.mem_map.mp hid
    simpa using (List.mem_filter.mp hrow).2
  simpa using (List.subperm_of_subset hsub hsubset).length_le

/-- The answer to the request for parents has all documents with these ids. -/
theorem answer_parents (hnodup : (docs.map docId).Nodup) {settings : Settings} {query : Query}
    {ids : List String} (hne : ids ≠ [])
    (hquery : Query.compile settings (Supplement.parentCriteria {} ids) = .ok query) :
    answer docs { query } = docs.filter (docId · ∈ ids) := by
  rw [Supplement.compile_parentCriteria settings ⟨by decide, by decide⟩ hne] at hquery
  obtain rfl := Except.ok.inj hquery
  refine answer_of_length_le ?_ (fun row => ?_) ?_
  · simp [Request.windowed, Query.withWindow]
  · rw [Supplement.filters_queryOf, List.all_cons, List.all_nil, Bool.and_true, Bool.eq_iff_iff]
    simpa using accepts_isIn hne row
  · have hle := length_filter_docId_le hnodup ids
    simpa [Request.windowed, Query.withWindow] using hle

theorem answer_children {settings : Settings} {query : Query} {known : List Node}
    {parent : String} {limit : Int}
    (hlimit : (docs.filter (parentId · = parent)).length ≤ limit.toNat)
    (hquery : Query.compile settings (Supplement.childCriteria {} known parent) = .ok query) :
    answer docs ⟨query, some 0, some limit⟩ =
      docs.filter fun row =>
        parentId row = parent ∧ docId row ∉ Supplement.knownChildren known parent := by
  rw [Supplement.compile_childCriteria settings ⟨by decide, by decide⟩] at hquery
  obtain rfl := Except.ok.inj hquery
  refine answer_of_length_le rfl (fun row => ?_) ?_
  · rw [Supplement.filters_queryOf, List.all_cons, Bool.eq_iff_iff, Bool.and_eq_true,
      accepts_equal]
    by_cases hnil : Supplement.knownChildren known parent = []
    · simp [hnil]
    · rw [if_neg hnil, List.all_cons, List.all_nil, Bool.and_true, accepts_notIn hnil]
      simp
  · have hle : (docs.filter fun row => parentId row = parent ∧
        docId row ∉ Supplement.knownChildren known parent).length ≤
        (docs.filter (parentId · = parent)).length := by
      refine List.Sublist.length_le (List.monotone_filter_right docs fun row hrow => ?_)
      simp only [decide_eq_true_eq] at hrow ⊢
      exact hrow.1
    exact Nat.le_trans hle hlimit

end Index

end CriteriaSearch
