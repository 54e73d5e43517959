import CriteriaSearch.Proofs.Lists
import CriteriaSearch.Proofs.Search.Lockstep
import CriteriaSearch.Search.Journal

/-!
# Journals tell what was fetched

Writing a journal changes nothing else: an engine runs in lockstep with the one that keeps a
journal, so an expansion with a journal has the outcome and the state of the source that it has
without one.
-/

namespace CriteriaSearch

namespace Engine

variable {σ : Type} (x : Engine σ)

/-- `m'` does with a journal what `m` does without. -/
def Forgets {α : Type} (m' : StateM (Journal σ) α) (m : StateM σ α) : Prop :=
  ∀ s journal, ((m' (s, journal)).1, (m' (s, journal)).2.1) = m s

theorem Forgets.of_lockstep {α : Type} {m' : StateM (Journal σ) α} {m : StateM σ α}
    (h : Lockstep (fun a s => a.1 = s) Eq m' m) : Forgets m' m := by
  intro s journal
  obtain ⟨hresult, hstate⟩ := h (s, journal) s rfl
  exact Prod.ext hresult hstate

theorem journaled_hierarchy : x.journaled.hierarchy = x.hierarchy := rfl

theorem journaled_schedule : x.journaled.schedule = x.schedule := rfl

theorem journaled_room : x.journaled.room = x.room := rfl

theorem journaled_parentRequest (ids : List String) :
    x.journaled.parentRequest ids = x.parentRequest ids := rfl

theorem journaled_requestChildren (e : Expansion) (known : List Node) :
    x.journaled.requestChildren e known = x.requestChildren e known := rfl

theorem journaled_readChildren (known : List Node) :
    x.journaled.readChildren known = x.readChildren known := rfl

theorem journaled_paired : Paired (fun a s => a.1 = s) x.journaled x := by
  refine .of_source (fun r => ?_) rfl rfl rfl rfl
  rintro ⟨s, journal⟩ s' rfl
  exact ⟨rfl, rfl⟩

theorem journaled_gather (rows : List Row) (e : Expansion) :
    Forgets (x.journaled.gather rows e) (x.gather rows e) :=
  .of_lockstep (x.journaled_paired.gather_eq rows)

theorem journaled_expandInPlace (e : Expansion) (t : Table) :
    Forgets ((x.journaled.expandInPlace e).run t) ((x.expandInPlace e).run t) :=
  .of_lockstep (x.journaled_paired.expandInPlace e t)

end Engine

end CriteriaSearch
