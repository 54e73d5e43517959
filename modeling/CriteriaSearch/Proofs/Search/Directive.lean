import CriteriaSearch.Proofs.Query.Concatenation
import CriteriaSearch.Search.Replay
import CriteriaSearch.Search.Run

/-!
# Searches do what their queries display

The expansion of a search is looked up among the criteria, and the one that a query displays is
carried through all entries, across URLs that replace the rest. Both are the last directive that is
not null, so a search is the run of its compiled query alone.
-/

namespace CriteriaSearch

/-- The text of a value, unless it is null. -/
def Value.text? (v : Value) : Option String := if v.isNull then none else some v.toText

theorem Value.text?_eq_none_iff (v : Value) : v.text? = none ↔ v.isNull = true := by
  unfold Value.text?
  split <;> simp [*]

/-- A control field has the value of its last directive. -/
theorem Criteria.controlValue_text? (c : Criteria) (field : String) :
    (c.controlValue field).text? = (c.entries.filterMap (·.directive? field)).getLast? := by
  have hstep : ∀ entry ∈ c.entries, ∀ v : Value,
      (if entry.field = field ∧ !entry.value.isNull then entry.value else v).text? =
        (entry.directive? field).or v.text? := by
    intro entry _ v
    by_cases hgiven : entry.field = field ∧ entry.value.isNull = false
    · simp [Criterion.directive?, Value.text?, hgiven]
    · have hgiven' : ¬ (entry.field = field ∧ (!entry.value.isNull) = true) := by simpa using hgiven
      rw [Criterion.directive?, if_neg hgiven, if_neg hgiven', Option.none_or]
  rw [controlValue, foldl_replaced hstep]
  exact Option.or_none

theorem Query.expansion_of_compile {settings : Settings} {criteria : Criteria} {q : Query}
    (h : compile settings criteria = .ok q) :
    q.expansion = (criteria.controlValue Control.expand).text? := by
  obtain ⟨endpoint, changes, -, hchanges, rfl⟩ := compile_eq_ok_iff.mp h
  rw [withEcho_expansion, Change.foldl_expansion, Criterion.filterMap_expansion? hchanges,
    Criteria.controlValue_text?]
  exact Option.or_none

namespace Engine

variable {σ : Type}

/-- Expand a page as a text asks for it, if there is a text. -/
def expandAs (x : Engine σ) (directive : Option String) (t : Table) :
    StateM σ (Except Failure Table) :=
  match directive with
  | none => return .ok t
  | some s =>
    match Expansion.ofText s with
    | .error f => return .error f
    | .ok e => do return (← x.expand t e).outcome

/-- Fetch the page of a query and expand it as the query displays. -/
def runCompiled (x : Engine σ) (q : Query) (w : Window) : StateM σ (Except Failure Table) := do
  match ← x.fetchAs .searchFailed { query := q, offset := w.offset, limit := w.limit } with
  | .error f => return .error f
  | .ok t => x.expandAs q.expansion t

/-- A search is the run of its compiled query, whose expansion is the one of the criteria. -/
theorem search_eq_runCompiled (x : Engine σ) {criteria : Criteria} {q : Query}
    (h : Query.compile x.settings criteria = .ok q) (w : Window) :
    (q.expansion = none ↔ (criteria.controlValue Control.expand).isNull = true) ∧
      (∀ s, q.expansion = some s → s = (criteria.controlValue Control.expand).toText) ∧
      x.search criteria w = x.runCompiled q w := by
  have hexpansion := Query.expansion_of_compile h
  refine ⟨?_, ?_, ?_⟩
  · rw [hexpansion]
    exact Value.text?_eq_none_iff _
  · intro s hs
    rw [hexpansion, Value.text?] at hs
    split_ifs at hs
    exact (Option.some.inj hs).symm
  · unfold search fetchPage runCompiled
    rw [h, hexpansion, Value.text?]
    refine bind_congr fun answer => ?_
    cases answer with
    | error f => rfl
    | ok t =>
        dsimp only
        split
        · rfl
        · rfl

/-- Expansions before and after URLs, the last ones empty and null. -/
def scatteredDirectives : List Criterion :=
  [⟨Control.expand, .text, .equal, [.text "child(3)"], .and⟩,
    ⟨Control.url, .text, .equal, [.text "http://h/s?q=lamp&rows=5"], .and⟩,
    ⟨Control.expand, .text, .equal, [.null], .and⟩,
    ⟨Control.expand, .text, .equal, [.bool true], .and⟩,
    ⟨"size", .text, .equal, [.text "big"], .and⟩,
    ⟨Control.url, .text, .equal, [.text "http://h/s?fq=color:red"], .and⟩,
    ⟨Control.expand, .text, .equal, [.text ""], .and⟩,
    ⟨Control.expand, .text, .equal, [], .and⟩]

theorem search_scatteredDirectives :
    Query.compile {} ⟨scatteredDirectives, none, none⟩ = .ok
        { filters := ["color:red"], expansion := some "" } ∧
      ({ source := Replay.source } : Engine Replay).search ⟨scatteredDirectives, none, none⟩ {} =
        ({ source := Replay.source } : Engine Replay).runCompiled
          { filters := ["color:red"], expansion := some "" } {} := by
  have hcompile : Query.compile {} ⟨scatteredDirectives, none, none⟩ = .ok
      { filters := ["color:red"], expansion := some "" } := by decide +kernel
  obtain ⟨-, -, hsearch⟩ :=
    search_eq_runCompiled ({ source := Replay.source } : Engine Replay) hcompile {}
  exact ⟨hcompile, hsearch⟩

end Engine

end CriteriaSearch
