import CriteriaSearch.Page.Supplement
import CriteriaSearch.Proofs.Criteria.Reading

/-!
# The requests of an expansion

The criteria for missing parents and for the children of a parent always have a query, unless a cell
of the hierarchy is named like a control field. Their conditions are on texts, and each of them
becomes one filter.
-/

namespace CriteriaSearch

/-- Ids and parents of rows are not named like control fields. -/
structure Hierarchy.Plain (h : Hierarchy) : Prop where
  id_plain : Control.lead.toList.isPrefixOf h.id.toList = false
  parent_plain : Control.lead.toList.isPrefixOf h.parent.toList = false

namespace Supplement

/-! ### What is asked for -/

theorem mem_missingParents {page : List Node} {id : String} :
    id ∈ missingParents page ↔
      (∃ n ∈ page, n.parent = id) ∧ id ≠ "" ∧ ∀ n ∈ page, n.id ≠ id := by
  simp [missingParents, List.mem_eraseDups]

theorem mem_parentIds {known : List Node} {id : String} :
    id ∈ parentIds known ↔ ∃ n ∈ known, n.isParent = true ∧ n.id ≠ "" ∧ n.id = id := by
  simp [parentIds, List.mem_eraseDups, and_assoc]

theorem mem_knownChildren {known : List Node} {parent id : String} :
    id ∈ knownChildren known parent ↔ ∃ n ∈ known, n.parent = parent ∧ n.id ≠ "" ∧ n.id = id := by
  simp [knownChildren, List.mem_eraseDups, and_assoc]

/-! ### Queries -/

/-- The condition that a cell has one of the given texts, or none of them. -/
def textEntry (field : String) (operator : Operator) (values : List String) : Criterion where
  field := field
  valueType := .text
  operator := operator
  values := values.map .text

theorem clause?_equal (field v : String) :
    (textEntry field .equal [v]).clause? = .ok (some (field ++ ":" ++ Clause.escape v)) := by
  have hclause := Clause.clause?_eq_lead (c := textEntry field .equal [v]) rfl
    (Clause.body_single_text "" "" v)
  simpa [Clause.lead, textEntry] using hclause

theorem clause?_isIn (field : String) {values : List String} (hne : values ≠ []) :
    (textEntry field .isIn values).clause? =
      .ok (some (field ++ ":" ++ Clause.listText values)) := by
  have hclause := Clause.clause?_eq_lead (c := textEntry field .isIn values) rfl
    (Clause.body_anyOf_text hne)
  simpa [Clause.lead, textEntry] using hclause

theorem clause?_notIn (field : String) {values : List String} (hne : values ≠ []) :
    (textEntry field .notIn values).clause? =
      .ok (some ("-" ++ field ++ ":" ++ Clause.listText values)) := by
  have hclause := Clause.clause?_eq_lead (c := textEntry field .notIn values) rfl
    (Clause.body_anyOf_text hne)
  simpa [Clause.lead, textEntry] using hclause

/-- The query for the documents that pass filters. -/
def queryOf (settings : Settings) (endpoint : String) (filters : List String) (limit : Int) :
    Query := Query.withEcho settings { endpoint, filters, limit }

@[simp] theorem filters_queryOf (settings : Settings) (endpoint : String) (filters : List String)
    (limit : Int) : (queryOf settings endpoint filters limit).filters = filters := by
  unfold queryOf Query.withEcho
  cases Settings.given settings.echoParams <;> rfl

@[simp] theorem offset_queryOf (settings : Settings) (endpoint : String) (filters : List String)
    (limit : Int) : (queryOf settings endpoint filters limit).offset = 0 := by
  unfold queryOf Query.withEcho
  cases Settings.given settings.echoParams <;> rfl

@[simp] theorem limit_queryOf (settings : Settings) (endpoint : String) (filters : List String)
    (limit : Int) : (queryOf settings endpoint filters limit).limit = limit := by
  unfold queryOf Query.withEcho
  cases Settings.given settings.echoParams <;> rfl

/-- The entry for all documents, with which both criteria start. -/
def anyEntry : Criterion := ⟨Control.query, .text, .equal, [.text "*:*"], .and⟩

theorem takeEntry_anyEntry (q : Query) : q.takeEntry anyEntry = .ok { q with query := "*:*" } := by
  have hcontrol : anyEntry.isControl = true := by decide
  rw [Query.takeEntry, if_pos hcontrol]
  rfl

theorem takeEntry_text {field : String} (hplain : Control.lead.toList.isPrefixOf field.toList
    = false) {operator : Operator} (hsort : operator ≠ .sort) {values : List String}
    {clause : String} (hclause : (textEntry field operator values).clause? = .ok (some clause))
    (q : Query) : q.takeEntry (textEntry field operator values) =
      .ok { q with filters := q.filters ++ [clause] } := by
  have hcontrol : (textEntry field operator values).isControl = false := hplain
  have hoperator : (textEntry field operator values).operator = operator := rfl
  simp [Query.takeEntry, hcontrol, hoperator, hsort, hclause, Except.mapError, bind, Except.bind,
    pure, Except.pure]

theorem endpointFor_eq (settings : Settings) {c : Criteria}
    (h : ∀ entry ∈ c.entries, entry.field ≠ Control.handler) :
    Query.endpointFor settings c = .ok (Query.endpointOf settings.requestHandler) := by
  have hnone : c.entries.find? (·.field == Control.handler) = none := by
    rw [List.find?_eq_none]
    intro entry hentry
    simpa using h entry hentry
  rw [Query.endpointFor, hnone]

theorem ne_handler {field : String}
    (hplain : Control.lead.toList.isPrefixOf field.toList = false) : field ≠ Control.handler := by
  rintro rfl
  exact absurd hplain (by decide)

/-- Conditions that have a clause each become the filters of a query, in order. -/
theorem compile_clauses (settings : Settings) {c : Criteria} {entries : List Criterion}
    {clauses : List String} (hentries : c.entries = anyEntry :: entries) (hoffset : c.offset = none)
    (hhandler : ∀ entry ∈ entries, entry.field ≠ Control.handler)
    (hclauses : List.Forall₂ (fun entry clause => ∀ q : Query,
      q.takeEntry entry = .ok { q with filters := q.filters ++ [clause] }) entries clauses) :
    Query.compile settings c =
      .ok (queryOf settings (Query.endpointOf settings.requestHandler) clauses
        (c.limit.getD 10)) := by
  have hendpoint : Query.endpointFor settings c =
      .ok (Query.endpointOf settings.requestHandler) := by
    apply endpointFor_eq
    rw [hentries]
    exact List.forall_mem_cons.mpr ⟨by decide, hhandler⟩
  have hfold : ∀ q : Query, entries.foldlM Query.takeEntry q =
      .ok { q with filters := q.filters ++ clauses } := by
    clear hentries hhandler hendpoint
    induction hclauses with
    | nil => simp [pure, Except.pure]
    | @cons entry clause entries clauses hentry _ ih =>
        intro q
        rw [List.foldlM_cons, hentry q]
        simp only [bind, Except.bind, ih, List.append_assoc, List.singleton_append]
  unfold Query.compile
  rw [hendpoint, hentries]
  simp only [List.foldlM_cons, takeEntry_anyEntry]
  simp only [bind, Except.bind, hfold, Query.start, hoffset]
  rfl

/-- The query for missing parents asks for all of them at once. -/
theorem compile_parentCriteria (settings : Settings) {h : Hierarchy} (hplain : h.Plain)
    {ids : List String} (hne : ids ≠ []) :
    Query.compile settings (parentCriteria h ids) =
      .ok (queryOf settings (Query.endpointOf settings.requestHandler)
        [h.id ++ ":" ++ Clause.listText ids] ids.length) := by
  have hids := takeEntry_text hplain.id_plain (show Operator.isIn ≠ .sort by decide)
    (clause?_isIn h.id hne)
  have hhandler : ∀ entry ∈ [textEntry h.id .isIn ids], entry.field ≠ Control.handler :=
    List.forall_mem_singleton.mpr (ne_handler hplain.id_plain)
  exact compile_clauses settings rfl rfl hhandler (.cons hids .nil)

/-- The query for the children of a parent excludes those that are known. -/
theorem compile_childCriteria (settings : Settings) {h : Hierarchy} (hplain : h.Plain)
    (known : List Node) (parent : String) :
    Query.compile settings (childCriteria h known parent) =
      .ok (queryOf settings (Query.endpointOf settings.requestHandler)
        ((h.parent ++ ":" ++ Clause.escape parent) ::
          (if knownChildren known parent = [] then []
            else ["-" ++ h.id ++ ":" ++ Clause.listText (knownChildren known parent)])) 10) := by
  have hparent := takeEntry_text hplain.parent_plain (show Operator.equal ≠ .sort by decide)
    (clause?_equal h.parent parent)
  have hlimit : (childCriteria h known parent).limit = none := by
    unfold childCriteria
    cases knownChildren known parent <;> rfl
  have hoffset : (childCriteria h known parent).offset = none := by
    unfold childCriteria
    cases knownChildren known parent <;> rfl
  have hentries : (childCriteria h known parent).entries = anyEntry ::
      textEntry h.parent .equal [parent] :: (if knownChildren known parent = [] then []
        else [textEntry h.id .notIn (knownChildren known parent)]) := by
    unfold childCriteria
    cases knownChildren known parent <;> rfl
  have hhandler : ∀ entry ∈ textEntry h.parent .equal [parent] ::
      (if knownChildren known parent = [] then []
        else [textEntry h.id .notIn (knownChildren known parent)]),
      entry.field ≠ Control.handler := by
    refine List.forall_mem_cons.mpr ⟨ne_handler hplain.parent_plain, ?_⟩
    split
    · exact List.forall_mem_nil _
    · exact List.forall_mem_singleton.mpr (ne_handler hplain.id_plain)
  rw [compile_clauses settings hentries hoffset hhandler (.cons hparent ?_), hlimit]
  · rfl
  · by_cases hnil : knownChildren known parent = []
    · rw [if_pos hnil, if_pos hnil]
      exact .nil
    · rw [if_neg hnil, if_neg hnil]
      exact .cons (takeEntry_text hplain.id_plain (show Operator.notIn ≠ .sort by decide)
        (clause?_notIn h.id hnil)) .nil

/-- Requests for the children of different parents differ. -/
theorem parent_eq_of_compile {settings : Settings} {h : Hierarchy} (hplain : h.Plain)
    {known known' : List Node} {p p' : String} {query : Query}
    (hp : Query.compile settings (childCriteria h known p) = .ok query)
    (hp' : Query.compile settings (childCriteria h known' p') = .ok query) : p = p' := by
  rw [compile_childCriteria settings hplain] at hp hp'
  have hfilters := congrArg Query.filters (Except.ok.inj (hp.trans hp'.symm))
  rw [filters_queryOf, filters_queryOf] at hfilters
  exact Clause.escape_injective (String.append_right_inj _ |>.mp (List.cons.inj hfilters).1)

end Supplement

end CriteriaSearch
