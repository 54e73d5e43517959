import CriteriaSearch.Proofs.Query.Concatenation

/-!
# Criteria on one line

Each entry either contributes a text to the line or leaves no trace there. The texts stand in the
order of their entries, and those that are no relevance queries are the filters of the query.
-/

namespace CriteriaSearch

namespace Criterion

/-- The relevance query of a directive, or the clause of a condition. -/
def contribution (entry : Criterion) : Option String :=
  if entry.isControl then entry.directive? Control.query
  else if entry.operator = .sort then none
  else entry.clause?.toOption.join

/-- The entries that contribute to a line, each with its text. -/
def contributions (entries : List Criterion) : List (Criterion × String) :=
  entries.filterMap fun entry => entry.contribution.map (entry, ·)

def led (p : Criterion × String) : List String := [p.1.conjunction.name, p.2]

/-- Texts in order, each but the first one behind its conjunction. -/
def conjoined : List (Criterion × String) → List String
  | [] => []
  | first :: others => first.2 :: others.flatMap led

theorem contributions_cons_none {entry : Criterion} (h : entry.contribution = none)
    (entries : List Criterion) : contributions (entry :: entries) = contributions entries :=
  List.filterMap_cons_none (congrArg (Option.map (entry, ·)) h)

theorem contributions_cons_some {entry : Criterion} {s : String} (h : entry.contribution = some s)
    (entries : List Criterion) :
    contributions (entry :: entries) = (entry, s) :: contributions entries :=
  List.filterMap_cons_some (congrArg (Option.map (entry, ·)) h)

/-- Entries without a contribution can be left out. -/
theorem contributions_filter (entries : List Criterion) :
    contributions (entries.filter (·.contribution.isSome)) = contributions entries := by
  induction entries with
  | nil => rfl
  | cons entry entries ih =>
      cases h : entry.contribution with
      | none => rw [List.filter_cons_of_neg (by simp [h]), contributions_cons_none h, ih]
      | some s =>
          rw [List.filter_cons_of_pos (by simp [h]), contributions_cons_some h,
            contributions_cons_some h, ih]

/-! ### Contributions and changes -/

variable {entry : Criterion} {change : Change}

theorem fragment?_of_change (h : entry.change = .ok change) :
    Query.fragment? entry = .ok entry.contribution := by
  unfold Criterion.change at h
  unfold Query.fragment? contribution directive?
  split_ifs at h with hcontrol hsort
  · rw [if_pos hcontrol, if_pos hcontrol]
    by_cases hquery : entry.field = Control.query ∧ entry.value.isNull = false
    · obtain ⟨hfield, hpresent⟩ := hquery
      rw [controlChange, if_pos hfield, hpresent] at h
      obtain ⟨s, hs, -⟩ := map_eq_ok h
      rw [hs, directiveText_eq_ok hs]
      simp [hfield, hpresent, Except.map]
    · simp only [Bool.not_eq_true', hquery, if_false]
  · rw [if_neg hcontrol, if_neg hcontrol, if_pos hsort, if_pos hsort]
  · rw [if_neg hcontrol, if_neg hcontrol, if_neg hsort, if_neg hsort]
    obtain ⟨clause, hclause, -⟩ := map_eq_ok h
    cases hfound : entry.clause? with
    | error e =>
        rw [hfound] at hclause
        cases hclause
    | ok found => rfl

theorem contribution_of_isControl (hcontrol : entry.isControl = true)
    (hfield : entry.field ≠ Control.query) : entry.contribution = none := by
  rw [contribution, if_pos hcontrol, directive?_of_ne hfield]

/-- An entry adds its contribution as a filter, unless this is a relevance query. -/
theorem Makes.filter?_eq (h : entry.Makes change) :
    change.filter? = if entry.field = Control.query then none else entry.contribution := by
  have hsilent : entry.isControl = true →
      none = if entry.field = Control.query then none else entry.contribution := by
    intro hcontrol
    split_ifs with hfield
    · rfl
    · exact (contribution_of_isControl hcontrol hfield).symm
  have hplain : entry.isControl = false →
      (if entry.field = Control.query then none else entry.contribution) =
        if entry.operator = .sort then none else entry.clause?.toOption.join := by
    intro hcontrol
    rw [if_neg (field_ne hcontrol (by decide)), contribution, hcontrol]
    rfl
  cases h with
  | query field _ => exact hsilent (by rw [isControl, field]; decide)
  | restart field => exact hsilent (by rw [isControl, field]; decide)
  | param field => exact hsilent (by rw [isControl, field]; decide)
  | expansion field _ => exact hsilent (by rw [isControl, field]; decide)
  | idle control _ _ _ => exact hsilent control
  | order plain sort => rw [hplain plain, if_pos sort]; rfl
  | filter plain sort has => rw [hplain plain, if_neg sort, has]; rfl
  | dropped plain sort lacks => rw [hplain plain, if_neg sort, lacks]; rfl

theorem filterMap_filter? {entries : List Criterion} {changes : List Change}
    (h : entries.mapM Criterion.change = .ok changes) :
    changes.filterMap Change.filter? =
      ((contributions entries).filter (·.1.field ≠ Control.query)).map Prod.snd := by
  rw [filterMap_of_mapM (fun _ _ _ hmade => (makes_of_change hmade).filter?_eq) h]
  clear h
  induction entries with
  | nil => rfl
  | cons entry entries ih =>
      cases hcontribution : entry.contribution with
      | none =>
          rw [contributions_cons_none hcontribution, ← ih]
          exact List.filterMap_cons_none (by rw [hcontribution, ite_self])
      | some s =>
          rw [contributions_cons_some hcontribution]
          by_cases hfield : entry.field = Control.query
          · rw [List.filter_cons_of_neg (by simp [hfield]), ← ih]
            exact List.filterMap_cons_none (if_pos hfield)
          · rw [List.filter_cons_of_pos (by simp [hfield]), List.map_cons, ← ih]
            exact List.filterMap_cons_some (by rw [if_neg hfield, hcontribution])

end Criterion

namespace Query

open Criterion

variable {settings : Settings} {criteria : Criteria} {entries : List Criterion} {q : Query}

section Lines

variable (htold : ∀ entry ∈ entries, fragment? entry = .ok entry.contribution)

include htold

/-- Behind a text every contribution brings its conjunction. -/
theorem foldlM_lineWords_of_ne {seen : List String} (hseen : seen ≠ []) :
    entries.foldlM lineWords seen = .ok (seen ++ (contributions entries).flatMap led) := by
  induction entries generalizing seen with
  | nil => exact congrArg Except.ok (List.append_nil seen).symm
  | cons entry entries ih =>
      obtain ⟨hentry, hrest⟩ := List.forall_mem_cons.mp htold
      cases h : entry.contribution with
      | none =>
          have hstep : lineWords seen entry = .ok seen := by
            rw [lineWords, hentry, h]
            rfl
          rw [List.foldlM_cons, hstep, contributions_cons_none h]
          exact ih hrest hseen
      | some s =>
          have hstep : lineWords seen entry = .ok (seen ++ led (entry, s)) := by
            rw [lineWords, hentry, h]
            simp [hseen, led]
            rfl
          rw [List.foldlM_cons, hstep, contributions_cons_some h, List.flatMap_cons,
            ← List.append_assoc]
          exact ih hrest (List.append_ne_nil_of_left_ne_nil hseen _)

theorem foldlM_lineWords_nil :
    entries.foldlM lineWords [] = .ok (conjoined (contributions entries)) := by
  induction entries with
  | nil => rfl
  | cons entry entries ih =>
      obtain ⟨hentry, hrest⟩ := List.forall_mem_cons.mp htold
      cases h : entry.contribution with
      | none =>
          have hstep : lineWords [] entry = .ok [] := by
            rw [lineWords, hentry, h]
            rfl
          rw [List.foldlM_cons, hstep, contributions_cons_none h]
          exact ih hrest
      | some s =>
          have hstep : lineWords [] entry = .ok [s] := by
            rw [lineWords, hentry, h]
            rfl
          rw [List.foldlM_cons, hstep, contributions_cons_some h]
          exact foldlM_lineWords_of_ne hrest (List.cons_ne_nil s [])

end Lines

theorem line_eq (htold : ∀ entry ∈ criteria.entries, fragment? entry = .ok entry.contribution) :
    line criteria =
      .ok (Text.joinWith " " (conjoined (contributions criteria.entries))) := by
  rw [line, foldlM_lineWords_nil htold]
  rfl

theorem fragments_of_compile (h : compile settings criteria = .ok q) :
    ∀ entry ∈ criteria.entries, fragment? entry = .ok entry.contribution := by
  obtain ⟨endpoint, changes, -, hchanges, -⟩ := compile_eq_ok_iff.mp h
  intro entry hentry
  obtain ⟨change, hchange⟩ := exists_ok_of_mapM hchanges hentry
  exact fragment?_of_change hchange

theorem line_of_compile (h : compile settings criteria = .ok q) :
    ∃ s, line criteria = .ok s := ⟨_, line_eq (fragments_of_compile h)⟩

/-- The line of criteria without a URL joins the contributions of its entries, and those that are no
relevance queries are the filters of the query. Entries without a contribution can be left out. -/
theorem line_spec (h : compile settings criteria = .ok q)
    (hurl : ∀ entry ∈ criteria.entries, entry.field ≠ Control.url) :
    line criteria = .ok (Text.joinWith " " (conjoined (contributions criteria.entries))) ∧
      ((contributions criteria.entries).filter (·.1.field ≠ Control.query)).map Prod.snd =
        q.filters ∧
      line { criteria with entries := criteria.entries.filter (·.contribution.isSome) } =
        line criteria := by
  have htold := fragments_of_compile h
  refine ⟨line_eq htold, ?_, ?_⟩
  · obtain ⟨endpoint, changes, -, hchanges, rfl⟩ := compile_eq_ok_iff.mp h
    have hsteady := isRestart_eq_false hchanges hurl
    rw [withEcho_filters, Change.foldl_filters hsteady, filterMap_filter? hchanges]
    rfl
  · have hkept : ∀ entry ∈ criteria.entries.filter (·.contribution.isSome),
        fragment? entry = .ok entry.contribution :=
      fun entry hentry => htold entry (List.mem_of_mem_filter hentry)
    rw [line_eq htold, line_eq hkept]
    dsimp only
    rw [contributions_filter]

/-- Entries that leave no trace, before and between some that do. -/
def patchwork : Criteria where
  entries := [
    ⟨"name", .text, .sort, [.text "asc"], .or⟩,
    ⟨"flag", .boolean, .isIn, [.bool true], .or⟩,
    ⟨Control.query, .text, .equal, [.text "lamp"], .and⟩,
    ⟨Control.query, .text, .equal, [.null], .and⟩,
    ⟨"price", .number, .less, [.int 20], .or⟩,
    ⟨Control.expand, .text, .equal, [.text "child"], .or⟩,
    ⟨"kind", .text, .equal, [.text "a"], .and⟩]

theorem patchwork_line :
    line patchwork = .ok "lamp OR price:[* TO 19] AND kind:a" ∧
      ((contributions patchwork.entries).filter (·.1.field ≠ Control.query)).map Prod.snd =
        ["price:[* TO 19]", "kind:a"] ∧
      (patchwork.entries.filter (·.contribution.isSome)).length = 3 ∧
      line { patchwork with entries := patchwork.entries.filter (·.contribution.isSome) } =
        line patchwork := by
  have hcompile : compile {} patchwork =
      .ok { query := "lamp", filters := ["price:[* TO 19]", "kind:a"], sort := [("name", .asc)],
            expansion := some "child" } := by decide +kernel
  have hurl : ∀ entry ∈ patchwork.entries, entry.field ≠ Control.url := by decide
  have hwords : conjoined (contributions patchwork.entries) =
      ["lamp", "OR", "price:[* TO 19]", "AND", "kind:a"] := by decide +kernel
  obtain ⟨hline, hfilters, hkept⟩ := line_spec hcompile hurl
  rw [hwords] at hline
  exact ⟨hline.trans (by decide), hfilters, by decide +kernel, hkept⟩

end Query

end CriteriaSearch
