import CriteriaSearch.Proofs.Search.Gathering
import Mathlib.Logic.Relation

/-!
# Pools of workers

A source whose answers depend on the requests alone can be asked in any order. However the workers
of a pool take up requests and come back with answers, what is collected is what fetching one by one
brings: all tables in the order of the requests, or the failure of the first request that fails.
-/

namespace CriteriaSearch

/-- Whatever was fetched before, the answer to a request is the same. -/
def Source.Answers {σ : Type} (source : Source σ) (answer : Request → Except Failure Table) :
    Prop :=
  ∀ r s, (source.fetch r s).1 = answer r

namespace Engine

variable {σ : Type} {x : Engine σ} {answer : Request → Except Failure Table}
  {requests : List Request}

/-- The same engine under another schedule. -/
def under (x : Engine σ) (schedule : Schedule) : Engine σ := { x with schedule }

/-- What an expansion makes of the answer to a request. -/
def replyTo (answer : Request → Except Failure Table) (r : Request) : Except Failure Table :=
  (answer r).mapError raised

def replyAt (answer : Request → Except Failure Table) (requests : List Request) (i : Nat) :
    Except Failure Table :=
  (requests[i]?.map (replyTo answer)).getD (.ok {})

theorem fetchSupplement_eq (hsource : x.source.Answers answer) (r : Request) (s : σ) :
    (x.fetchSupplement r s).1 = replyTo answer r :=
  congrArg (·.mapError raised) (hsource r s)

theorem fetchEach_cons (x : Engine σ) (r : Request) (rs : List Request) (s : σ) :
    (x.fetchEach (r :: rs) s).1 = (x.fetchSupplement r s).1.bind fun t =>
      (x.fetchEach rs (x.fetchSupplement r s).2).1.map (t :: ·) := by
  rcases hfetch : x.fetchSupplement r s with ⟨reply, s'⟩
  simp only [fetchEach, bind, StateT.bind, hfetch]
  cases reply <;> rfl

theorem fetchEach_eq (hsource : x.source.Answers answer) (requests : List Request) (s : σ) :
    (x.fetchEach requests s).1 = requests.mapM (replyTo answer) := by
  induction requests generalizing s with
  | nil => rfl
  | cons r rs ih =>
      rw [fetchEach_cons, List.mapM_cons, fetchSupplement_eq hsource, ih]
      simp only [bind, Except.bind]
      cases replyTo answer r with
      | error f => rfl
      | ok t => cases rs.mapM (replyTo answer) <;> rfl

theorem fetchAt_eq (hsource : x.source.Answers answer) (requests : List Request)
    {positions : List Nat} (hpositions : ∀ i ∈ positions, i < requests.length) (s : σ) :
    (x.fetchAt requests positions s).1 =
      positions.map fun i => (i, replyAt answer requests i) := by
  induction positions generalizing s with
  | nil => rfl
  | cons i is ih =>
      have hi : i < requests.length := hpositions i List.mem_cons_self
      have hfirst := fetchSupplement_eq hsource requests[i] s
      have hrest := ih (fun j hj => hpositions j (List.mem_cons_of_mem i hj))
        (x.fetchSupplement requests[i] s).2
      have hreply : replyAt answer requests i = replyTo answer requests[i] := by
        simp [replyAt, hi]
      unfold fetchAt
      rw [List.getElem?_eq_getElem hi, List.map_cons, ← hrest, hreply, ← hfirst]
      rfl

/-- Answers are collected by position, so it does not matter in which order they came. -/
theorem collect_of_perm {answers : List (Nat × Except Failure Table)}
    (hperm : answers.Perm
      ((List.range requests.length).map fun i => (i, replyAt answer requests i))) :
    collect requests answers = requests.mapM (replyTo answer) := by
  have hkeys : (answers.map Prod.fst).Perm (List.range requests.length) := by
    have hfst : (Prod.fst ∘ fun i => (i, replyAt answer requests i)) = id := rfl
    have hmap := hperm.map Prod.fst
    rwa [List.map_map, hfst, List.map_id] at hmap
  have hnodup : (answers.map Prod.fst).Nodup := hkeys.nodup_iff.mpr List.nodup_range
  apply mapM_congr_map
  apply List.ext_getElem (by simp)
  intro i hrange hi
  have hlt : i < requests.length := by simpa using hi
  have hmem : (i, replyAt answer requests i) ∈ answers :=
    hperm.mem_iff.mpr (List.mem_map.mpr ⟨i, List.mem_range.mpr hlt, rfl⟩)
  simp [lookup_eq_some_of_mem hnodup hmem, replyAt, hlt]

/-- Under every schedule, fetching ends as the answers in the order of the requests do. -/
theorem fetchAll_eq (hsource : x.source.Answers answer) (requests : List Request) (s : σ) :
    (x.fetchAll requests s).1 = requests.mapM (replyTo answer) := by
  unfold fetchAll
  cases x.schedule with
  | sequential => exact fetchEach_eq hsource requests s
  | pooled order complete =>
      by_cases hone : requests.length ≤ 1
      · simp only [if_pos hone]
        exact fetchEach_eq hsource requests s
      · simp only [if_neg hone]
        have hpositions : ∀ i ∈ order requests.length, i < requests.length := fun i hi =>
          List.mem_range.mp ((complete _).mem_iff.mp hi)
        have hcollect : collect requests (x.fetchAt requests (order requests.length) s).1 =
            requests.mapM (replyTo answer) := by
          rw [fetchAt_eq hsource requests hpositions]
          exact collect_of_perm ((complete _).map _)
        exact hcollect

/-- Schedules and states do not matter for what is fetched. -/
theorem Paired.of_answers {τ : Type} {y : Engine τ} (hx : x.source.Answers answer)
    (hy : y.source.Answers answer) (hsettings : x.settings = y.settings)
    (hhierarchy : x.hierarchy = y.hierarchy) (hroom : x.room = y.room) :
    Paired (fun _ _ => True) x y := by
  refine ⟨hsettings, hhierarchy, hroom, fun r s s' _ => ⟨?_, trivial⟩,
    fun requests s s' _ => ⟨?_, trivial⟩⟩
  · rw [fetchSupplement_eq hx, fetchSupplement_eq hy]
  · rw [fetchAll_eq hx, fetchAll_eq hy]

/-! ### Workers -/

/-- The positions of the requests that wait, of those that are with a worker, and the answers that
have come in. -/
structure Pool where
  waiting : List Nat
  running : List Nat := []
  arrived : List (Nat × Except Failure Table) := []

namespace Pool

variable {workers n : Nat} {reply : Nat → Except Failure Table} {p q : Pool}

/-- A free worker takes up a request that waits, or a worker comes back with an answer. -/
inductive Step (workers : Nat) (reply : Nat → Except Failure Table) : Pool → Pool → Prop
  | start {p : Pool} {i : Nat} (free : p.running.length < workers) (mem : i ∈ p.waiting) :
      Step workers reply p
        { p with waiting := p.waiting.erase i, running := i :: p.running }
  | finish {p : Pool} {i : Nat} (mem : i ∈ p.running) :
      Step workers reply p
        { p with running := p.running.erase i, arrived := p.arrived ++ [(i, reply i)] }

/-- A run of the pool in which all of `n` requests are answered ends like this. -/
def Finishes (p : Pool) (workers : Nat) (reply : Nat → Except Failure Table) (n : Nat) : Prop :=
  Relation.ReflTransGen (Step workers reply) { waiting := List.range n } p ∧
    p.waiting = [] ∧ p.running = []

/-- Every position is in one place, and what has come in are the replies. -/
structure Sound (reply : Nat → Except Failure Table) (n : Nat) (p : Pool) : Prop where
  perm : (p.waiting ++ (p.running ++ p.arrived.map Prod.fst)).Perm (List.range n)
  replies : ∀ a ∈ p.arrived, a.2 = reply a.1

theorem Sound.step (h : p.Sound reply n) (hstep : Step workers reply p q) : q.Sound reply n := by
  obtain ⟨hperm, hreplies⟩ := h
  cases hstep with
  | @start i free mem =>
      refine ⟨List.Perm.trans ?_ hperm, hreplies⟩
      exact List.perm_middle.trans ((List.perm_cons_erase mem).symm.append_right _)
  | @finish i mem =>
      refine ⟨List.Perm.trans ?_ hperm, fun a ha => ?_⟩
      · -- The position leaves the workers and goes to the end of what has come in.
        rw [List.map_append]
        apply List.Perm.append_left
        rw [← List.append_assoc]
        refine List.perm_append_comm.trans ?_
        exact (List.perm_cons_erase mem).symm.append_right _
      · rcases List.mem_append.mp ha with ha | ha
        · exact hreplies a ha
        · rw [List.mem_singleton.mp ha]

theorem Sound.run (h : p.Sound reply n)
    (hrun : Relation.ReflTransGen (Step workers reply) p q) : q.Sound reply n := by
  induction hrun with
  | refl => exact h
  | tail _ hstep ih => exact ih.step hstep

/-- At the end of a run every position has come in once, with its reply. -/
theorem Finishes.arrived_perm (h : p.Finishes workers reply n) :
    p.arrived.Perm ((List.range n).map fun i => (i, reply i)) := by
  obtain ⟨hrun, hwaiting, hrunning⟩ := h
  have hstart : Sound reply n { waiting := List.range n } := ⟨by simp, by simp⟩
  obtain ⟨hperm, hreplies⟩ := hstart.run hrun
  rw [hwaiting, hrunning, List.nil_append, List.nil_append] at hperm
  have hpair : ∀ a ∈ p.arrived, (a.1, reply a.1) = id a := fun a ha => by
    rw [← hreplies a ha]
    rfl
  have harrived : (p.arrived.map Prod.fst).map (fun i => (i, reply i)) = p.arrived := by
    rw [List.map_map]
    exact (List.map_congr_left hpair).trans (List.map_id _)
  rw [← harrived]
  exact hperm.map _

end Pool

/-- However the workers of a pool take up requests and come back, what is collected is what fetching
one by one brings. -/
theorem collect_arrived (hsource : x.source.Answers answer) {workers : Nat} {p : Pool}
    (hp : p.Finishes workers (replyAt answer requests) requests.length) (s : σ) :
    collect requests p.arrived = (x.fetchEach requests s).1 := by
  rw [fetchEach_eq hsource]
  exact collect_of_perm hp.arrived_perm

end Engine

end CriteriaSearch
