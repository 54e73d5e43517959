import CriteriaSearch.Proofs.Page.Order
import CriteriaSearch.Proofs.Search.Gathering

/-!
# Expansions that fail

A table is written after the last fetch of an expansion. If any of the fetches fails, at whatever
step and under whatever schedule, the failure of a fetch is raised as one of the search, and the
table is as it was.
-/

namespace CriteriaSearch

namespace Failure

variable (f : Failure) (wrap : String → ExecutionError)

theorem asSearchFailure_of_isSearchFailure (h : f.isSearchFailure = true) :
    f.asSearchFailure wrap = f := if_pos h

theorem asSearchFailure_of_not_isSearchFailure (h : f.isSearchFailure = false) :
    f.asSearchFailure wrap = .execution (wrap f.message) := by
  simp [asSearchFailure, h]

theorem isSearchFailure_asSearchFailure : (f.asSearchFailure wrap).isSearchFailure = true := by
  cases h : f.isSearchFailure with
  | true => rwa [f.asSearchFailure_of_isSearchFailure wrap h]
  | false =>
      rw [f.asSearchFailure_of_not_isSearchFailure wrap h]
      rfl

end Failure

namespace Engine

variable {σ : Type}

theorem Expanded.raised_of_not_answered {x : Engine σ} {t after : Table} {e : Expansion}
    {exchanges : List Exchange} {done : Except Failure Unit}
    (h : x.Expanded t e exchanges done after) (hnot : ¬ Answered exchanges) :
    ∃ cause, Raised exchanges cause ∧ done = .error cause ∧ after = t := by
  cases h with
  | idle idle => exact absurd (by simp [Answered]) hnot
  | merged busy gathered => exact absurd gathered.answered_of_ok hnot
  | @failed _ cause busy gathered =>
      exact ⟨cause, gathered.raised_of_not_answered hnot, rfl, rfl⟩

/-- If a fetch of an expansion fails, then the expansion raises the failure of a fetch, unchanged if
it is one of a search and wrapped otherwise, and leaves the table as it is. -/
theorem expand_raises (x : Engine σ) (t : Table) (e : Expansion) (s : σ)
    (hfailed : ∃ ex ∈ x.exchanges t e s, ∃ f, ex.answer = .error f) :
    ∃ g cause, (∃ ex ∈ x.exchanges t e s, ex.answer = .error g) ∧
      (x.expand t e s).1.outcome = .error cause ∧
      cause.isSearchFailure = true ∧
      (g.isSearchFailure = true → cause = g) ∧
      (g.isSearchFailure = false → cause = .execution (.supplementFailed g.message)) ∧
      ((x.expandInPlace e).run t s).1.1.1 = .error cause ∧
      ((x.expandInPlace e).run t s).1.2 = t := by
  have hnot : ¬ Answered (x.exchanges t e s) := by
    intro hanswered
    obtain ⟨ex, hex, f, hf⟩ := hfailed
    obtain ⟨reply, hreply⟩ := hanswered ex hex
    rw [hf] at hreply
    cases hreply
  obtain ⟨_, ⟨ex, hex, g, hg, rfl⟩, hdone, hafter⟩ :=
    (x.expanded_expandInPlace t e s).raised_of_not_answered hnot
  refine ⟨g, raised g, ⟨ex, hex, hg⟩, ?_, g.isSearchFailure_asSearchFailure _,
    g.asSearchFailure_of_isSearchFailure _, g.asSearchFailure_of_not_isSearchFailure _, hdone,
    hafter⟩
  rw [expand_outcome, hdone]
  rfl

/-- Two parents whose children are asked for. -/
def household : Table where
  columns := [⟨"id", .text⟩]
  rows := [[("id", .text "p"), ("is_parent", .bool true)],
    [("id", .text "q"), ("is_parent", .bool true)]]

/-- A source that goes away after the children of one parent. -/
def outage : Engine Unit where
  source := .ofFunction fun r =>
    if r.query.filters = ["parent_id:p"] then .ok { rows := [[("id", .text "c")]] }
    else .error (.reported .system "connection lost")

/-- The first fetch succeeds and the second one fails; nothing of the first is left. -/
theorem outage_expand_raises :
    (∃ r r' t, outage.exchanges household { mode := .child } () =
        [⟨r, .ok t⟩, ⟨r', .error (.reported .system "connection lost")⟩]) ∧
      ∃ g cause, (∃ ex ∈ outage.exchanges household { mode := .child } (), ex.answer = .error g) ∧
        (outage.expand household { mode := .child } ()).1.outcome = .error cause ∧
        cause.isSearchFailure = true ∧
        (g.isSearchFailure = true → cause = g) ∧
        (g.isSearchFailure = false → cause = .execution (.supplementFailed g.message)) ∧
        ((outage.expandInPlace { mode := .child }).run household ()).1.1.1 = .error cause ∧
        ((outage.expandInPlace { mode := .child }).run household ()).1.2 = household := by
  have hexchanges : ∃ r r' t, outage.exchanges household { mode := .child } () =
      [⟨r, .ok t⟩, ⟨r', .error (.reported .system "connection lost")⟩] := ⟨_, _, _, rfl⟩
  obtain ⟨r, r', t, hboth⟩ := hexchanges
  refine ⟨⟨r, r', t, hboth⟩, ?_⟩
  apply expand_raises outage household { mode := .child } ()
  rw [hboth]
  exact ⟨_, List.mem_cons_of_mem _ List.mem_cons_self, _, rfl⟩

end Engine

end CriteriaSearch
