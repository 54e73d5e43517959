import CriteriaSearch.Proofs.Query.Effects

/-!
# Criteria one after the other

The query of two runs of entries, from the queries of each. Filters and sort orders add up and the
later relevance query wins, unless there is a URL in the second run: then nothing of the first run
is left but the endpoint and the expansion.
-/

namespace CriteriaSearch

namespace Criterion

/-- The text of an entry on a control field, unless its operand is null. -/
def directive? (field : String) (entry : Criterion) : Option String :=
  if entry.field = field ∧ entry.value.isNull = false then some entry.value.toText else none

variable {entry : Criterion}

theorem directive?_of_ne {field : String} (h : entry.field ≠ field) :
    entry.directive? field = none := if_neg fun hfield => h hfield.1

theorem directive?_of_isNull {field : String}
    (h : entry.field = field → entry.value.isNull = true) : entry.directive? field = none := by
  refine if_neg fun ⟨hfield, hpresent⟩ => ?_
  rw [h hfield] at hpresent
  cases hpresent

theorem Makes.directive?_eq {change : Change} (h : entry.Makes change) :
    change.query? = entry.directive? Control.query ∧
      change.expansion? = entry.directive? Control.expand := by
  have hother : entry.field ≠ Control.query → entry.field ≠ Control.expand →
      none = entry.directive? Control.query ∧ none = entry.directive? Control.expand :=
    fun hquery hexpand => ⟨(directive?_of_ne hquery).symm, (directive?_of_ne hexpand).symm⟩
  have hplain : entry.isControl = false →
      none = entry.directive? Control.query ∧ none = entry.directive? Control.expand :=
    fun h => hother (field_ne h (by decide)) (field_ne h (by decide))
  cases h with
  | query field present =>
      exact ⟨(if_pos ⟨field, present⟩).symm, (directive?_of_ne (field ▸ by decide)).symm⟩
  | expansion field present =>
      exact ⟨(directive?_of_ne (field ▸ by decide)).symm, (if_pos ⟨field, present⟩).symm⟩
  | idle _ _ query expand =>
      exact ⟨(directive?_of_isNull query).symm, (directive?_of_isNull expand).symm⟩
  | restart field => exact hother (field ▸ by decide) (field ▸ by decide)
  | param field => exact hother (field ▸ by decide) (field ▸ by decide)
  | order plain _ => exact hplain plain
  | filter plain _ _ => exact hplain plain
  | dropped plain _ _ => exact hplain plain

section Changes

variable {entries : List Criterion} {changes : List Change}
  (h : entries.mapM Criterion.change = .ok changes)

include h

theorem filterMap_query? :
    changes.filterMap Change.query? = entries.filterMap (·.directive? Control.query) :=
  filterMap_of_mapM (fun _ _ _ hmade => (makes_of_change hmade).directive?_eq.1) h

theorem filterMap_expansion? :
    changes.filterMap Change.expansion? = entries.filterMap (·.directive? Control.expand) :=
  filterMap_of_mapM (fun _ _ _ hmade => (makes_of_change hmade).directive?_eq.2) h

theorem exists_isRestart_iff :
    (∃ change ∈ changes, change.isRestart = true) ↔
      ∃ entry ∈ entries, entry.field = Control.url := by
  induction entries generalizing changes with
  | nil =>
      obtain rfl := Except.ok.inj h
      simp
  | cons entry entries ih =>
      obtain ⟨made, rest, hmade, hrest, rfl⟩ := mapM_cons_eq_ok_iff.mp h
      rw [List.exists_mem_cons_iff, List.exists_mem_cons_iff, ih hrest,
        (makes_of_change hmade).isRestart_iff]

theorem isRestart_eq_false (hurl : ∀ entry ∈ entries, entry.field ≠ Control.url) :
    ∀ change ∈ changes, change.isRestart = false := by
  intro change hmem
  apply Bool.eq_false_iff.mpr
  intro hrestart
  obtain ⟨entry, hentry, hfield⟩ := (exists_isRestart_iff h).mp ⟨change, hmem, hrestart⟩
  exact hurl entry hentry hfield

end Changes

end Criterion

namespace Query

/-- The parts of a query that a URL replaces. -/
def replaceable (q : Query) : Query := { q with endpoint := "", expansion := none }

theorem eq_of_replaceable_eq {a b : Query} (h : a.replaceable = b.replaceable) :
    a = { b with endpoint := a.endpoint, expansion := a.expansion } := by
  cases a
  cases b
  simpa [replaceable] using h

theorem parts_eq_of_replaceable_eq {a b : Query} (h : a.replaceable = b.replaceable) :
    a.query = b.query ∧ a.filters = b.filters ∧ a.sort = b.sort := by
  rw [eq_of_replaceable_eq h]
  exact ⟨rfl, rfl, rfl⟩

theorem replaceable_withEcho (settings : Settings) {a b : Query}
    (h : a.replaceable = b.replaceable) :
    (withEcho settings a).replaceable = (withEcho settings b).replaceable := by
  rw [eq_of_replaceable_eq h]
  unfold withEcho
  cases Settings.given settings.echoParams <;> rfl

end Query

namespace Change

theorem replaceable_apply (change : Change) {a b : Query} (h : a.replaceable = b.replaceable) :
    (change.apply a).replaceable = (change.apply b).replaceable := by
  rw [Query.eq_of_replaceable_eq h]
  cases change <;> rfl

theorem replaceable_restart {change : Change} (h : change.isRestart = true) (a b : Query) :
    (change.apply a).replaceable = (change.apply b).replaceable := by
  cases change with
  | restart made => rfl
  | _ => cases h

theorem foldl_replaceable (changes : List Change) {a b : Query}
    (h : a.replaceable = b.replaceable) :
    (changes.foldl apply a).replaceable = (changes.foldl apply b).replaceable := by
  induction changes generalizing a b with
  | nil => exact h
  | cons change changes ih => exact ih (change.replaceable_apply h)

/-- A restart forgets from where it was reached. -/
theorem foldl_restarted {changes : List Change} (h : ∃ change ∈ changes, change.isRestart = true)
    (a b : Query) :
    (changes.foldl apply a).replaceable = (changes.foldl apply b).replaceable := by
  obtain ⟨change, hmem, hrestart⟩ := h
  obtain ⟨before, after, rfl⟩ := List.append_of_mem hmem
  rw [List.foldl_append, List.foldl_append]
  exact foldl_replaceable after (replaceable_restart hrestart _ _)

end Change

namespace Query

/-! ### Endpoints -/

/-- The handler that the first handler entry names, or else the settings. -/
def handlerOf (settings : Settings) (entries : List Criterion) : String :=
  match entries.find? (·.field == Control.handler) with
  | none => settings.requestHandler
  | some entry => if entry.value.isNull then "" else entry.value.toText

theorem endpointFor_eq_handlerOf {settings : Settings} {criteria : Criteria} {endpoint : String}
    (h : endpointFor settings criteria = .ok endpoint) :
    endpoint = endpointOf (handlerOf settings criteria.entries) := by
  unfold endpointFor at h
  unfold handlerOf
  cases hfind : criteria.entries.find? (·.field == Control.handler) with
  | none =>
      rw [hfind] at h
      exact (Except.ok.inj h).symm
  | some entry =>
      rw [hfind] at h
      dsimp only at h ⊢
      split_ifs at h ⊢ with hnull
      · exact (Except.ok.inj h).symm
      · obtain ⟨s, hs, rfl⟩ := map_eq_ok h
        rw [Criterion.directiveText_eq_ok hs]

/-- The first handler of two runs of entries is the first of one of them. -/
theorem endpointFor_append {settings : Settings} {offset limit : Option Int}
    {A B : List Criterion} {a b : String} (hA : endpointFor settings ⟨A, offset, limit⟩ = .ok a)
    (hB : endpointFor settings ⟨B, offset, limit⟩ = .ok b) :
    ∃ endpoint, endpointFor settings ⟨A ++ B, offset, limit⟩ = .ok endpoint := by
  unfold endpointFor at hA hB ⊢
  rw [List.find?_append]
  dsimp only at hA hB
  cases hfind : A.find? (·.field == Control.handler) with
  | none => exact ⟨b, hB⟩
  | some entry =>
      rw [hfind] at hA
      exact ⟨a, hA⟩

/-! ### Two runs of entries -/

/-- The query of two runs of entries that have queries of their own. Without a URL in the second
run its filters and sort orders are added and its relevance query, if there is one, wins. With one
all parts of its query are kept, but for the expansion and the endpoint, which are those of all
entries. -/
theorem compile_append {settings : Settings} {offset limit : Option Int} {A B : List Criterion}
    {qA qB : Query} (hA : compile settings ⟨A, offset, limit⟩ = .ok qA)
    (hB : compile settings ⟨B, offset, limit⟩ = .ok qB) :
    ∃ q, compile settings ⟨A ++ B, offset, limit⟩ = .ok q ∧
      ((∀ entry ∈ B, entry.field ≠ Control.url) →
        q.filters = qA.filters ++ qB.filters ∧ q.sort = qA.sort ++ qB.sort ∧
          q.query = (B.filterMap (·.directive? Control.query)).getLast?.getD qA.query) ∧
      ((∃ entry ∈ B, entry.field = Control.url) →
        q = { qB with endpoint := q.endpoint, expansion := q.expansion }) ∧
      q.expansion = ((A ++ B).filterMap (·.directive? Control.expand)).getLast? ∧
      q.endpoint = endpointOf (handlerOf settings (A ++ B)) := by
  obtain ⟨a, changesA, hendA, hchangesA, rfl⟩ := compile_eq_ok_iff.mp hA
  obtain ⟨b, changesB, hendB, hchangesB, rfl⟩ := compile_eq_ok_iff.mp hB
  obtain ⟨endpoint, hend⟩ := endpointFor_append hendA hendB
  have hchanges := mapM_append_eq_ok hchangesA hchangesB
  have hurls := Criterion.exists_isRestart_iff hchangesB
  refine ⟨_, compile_eq_ok_iff.mpr ⟨endpoint, _, hend, hchanges, rfl⟩, ?_, ?_, ?_, ?_⟩
  · -- What the second run adds does not depend on the query that it starts from.
    intro hnone
    have hsteady := Criterion.isRestart_eq_false hchangesB hnone
    have hfront :
        (changesA.foldl Change.apply (start ⟨A ++ B, offset, limit⟩ endpoint)).replaceable =
          (changesA.foldl Change.apply (start ⟨A, offset, limit⟩ a)).replaceable :=
      Change.foldl_replaceable changesA rfl
    obtain ⟨hquery, hfilters, hsort⟩ := parts_eq_of_replaceable_eq hfront
    have hlast := Change.foldl_query hsteady
      (changesA.foldl Change.apply (start ⟨A ++ B, offset, limit⟩ endpoint))
    rw [Criterion.filterMap_query? hchangesB, Option.or_some, Option.some_inj, hquery] at hlast
    simp only [withEcho_filters, withEcho_sort, withEcho_query, List.foldl_append]
    refine ⟨?_, ?_, hlast⟩
    · rw [Change.foldl_filters hsteady, Change.foldl_filters hsteady, hfilters]
      rfl
    · rw [Change.foldl_sort hsteady, Change.foldl_sort hsteady, hsort]
      rfl
  · intro hurl
    refine eq_of_replaceable_eq (replaceable_withEcho settings ?_)
    rw [List.foldl_append]
    exact Change.foldl_restarted (hurls.mpr hurl) _ _
  · rw [withEcho_expansion, Change.foldl_expansion, Criterion.filterMap_expansion? hchanges]
    exact Option.or_none
  · rw [withEcho_endpoint, Change.foldl_endpoint]
    exact endpointFor_eq_handlerOf hend

/-- Cheap lamps, with the children of what is found. -/
def lamps : List Criterion :=
  [⟨Control.query, .text, .equal, [.text "lamp"], .and⟩,
    ⟨"price", .number, .less, [.int 20], .and⟩,
    ⟨Control.expand, .text, .equal, [.text "child"], .and⟩]

/-- A request of its own for red things, and one more filter. -/
def redThings : List Criterion :=
  [⟨Control.handler, .text, .equal, [.text "browse"], .and⟩,
    ⟨Control.url, .text, .equal, [.text "http://h/s?fq=color:red&rows=5"], .and⟩,
    ⟨"size", .text, .equal, [.text "big"], .and⟩]

theorem lamps_redThings_append :
    compile {} ⟨lamps, some 40, none⟩ = .ok
        { query := "lamp", filters := ["price:[* TO 19]"], offset := 40,
          expansion := some "child" } ∧
      compile {} ⟨redThings, some 40, none⟩ = .ok
        { filters := ["color:red", "size:big"], limit := 5, endpoint := "/browse" } ∧
      compile {} ⟨lamps ++ redThings, some 40, none⟩ = .ok
        { filters := ["color:red", "size:big"], limit := 5, endpoint := "/browse",
          expansion := some "child" } := by
  have hlamps : compile {} ⟨lamps, some 40, none⟩ = .ok
      { query := "lamp", filters := ["price:[* TO 19]"], offset := 40,
        expansion := some "child" } := by decide +kernel
  have hred : compile {} ⟨redThings, some 40, none⟩ = .ok
      { filters := ["color:red", "size:big"], limit := 5, endpoint := "/browse" } := by
    decide +kernel
  obtain ⟨q, hq, -, hurl, hexpansion, hendpoint⟩ := compile_append hlamps hred
  refine ⟨hlamps, hred, ?_⟩
  rw [hq, hurl ⟨_, List.mem_cons_of_mem _ List.mem_cons_self, rfl⟩, hexpansion, hendpoint]
  rfl

end Query

end CriteriaSearch
