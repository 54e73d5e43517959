import CriteriaSearch.Proofs.Search.Pool

/-!
# Expansions with a pool

Over a source whose answers depend on the requests alone, an expansion with a pool of workers ends
like one that fetches one by one: with the same table and the same report, or with the failure of
the first parent whose children cannot be fetched. This is so for every order in which the pool
works.
-/

namespace CriteriaSearch

namespace Engine

variable {σ : Type} {x : Engine σ} {answer : Request → Except Failure Table} {e : Expansion}
  {rows : List Row}

def pooled (x : Engine σ) (order : Nat → List Nat)
    (complete : ∀ n, (order n).Perm (List.range n)) : Engine σ := x.under (.pooled order complete)

def single (x : Engine σ) : Engine σ := x.under .sequential

/-- The parents of a page are found, but not the children of all parents: `f` is the failure for the
first parent whose children cannot be fetched. -/
inductive FirstFailing (x : Engine σ) (answer : Request → Except Failure Table) (rows : List Row)
    (e : Expansion) : Failure → Prop
  | intro {exchanges : List Exchange} {found : Option (Nat × List Node)} {pre post : List Request}
      {r : Request} {f : Failure}
      (arranged : x.hierarchy.arrange x.room rows = .ok (x.pageOf rows))
      (parents : x.ParentStep e (x.pageOf rows) exchanges (.ok found))
      (answered : ∀ ex ∈ exchanges, ex.answer = answer ex.request)
      (on : e.includesChildren = true)
      (requests : x.requestChildren e (x.pageOf rows ++ foundParents found) =
        .ok (pre ++ r :: post))
      (before : ∀ q ∈ pre, ∃ t, answer q = .ok t) (failing : answer r = .error f) :
      FirstFailing x answer rows e f

/-- The answers of the source decide what a step for parents brings. -/
theorem ParentStep.result_eq (hsource : x.source.Answers answer) {page : List Node}
    {exchanges : List Exchange} {found : Option (Nat × List Node)}
    (hstep : x.ParentStep e page exchanges (.ok found))
    (hanswered : ∀ ex ∈ exchanges, ex.answer = answer ex.request) (s : σ) :
    ((if e.includesParents then x.fetchParents page else return .ok none : StateM σ _) s).1 =
      .ok found := by
  cases hstep with
  | skipped off =>
      rw [off]
      rfl
  | complete on nil =>
      rw [if_pos on, fetchParents, nil]
      rfl
  | @fetched r t on ne_nil request =>
      have hanswer : answer r = .ok t := (hanswered _ List.mem_cons_self).symm
      have hreply : (x.fetchSupplement r s).1 = .ok t := by
        rw [fetchSupplement_eq hsource, replyTo, hanswer]
        rfl
      rw [if_pos on, fetchParents]
      cases hids : Supplement.missingParents page with
      | nil => exact absurd hids ne_nil
      | cons id ids =>
          rw [hids] at request
          simp only [request, bind_apply, hreply]
          rfl

theorem FirstFailing.gather_eq {f : Failure} (h : x.FirstFailing answer rows e f)
    (hsource : x.source.Answers answer) (s : σ) :
    (x.gather rows e s).1.1 = .error (raised f) := by
  cases h with
  | @intro exchanges found pre post r _ arranged parents answered on requests before failing =>
      have hfound := parents.result_eq hsource answered s
      have hchildren : ∀ s', (x.fetchChildren e (x.pageOf rows ++ foundParents found) s').1 =
          .error (raised f) := by
        intro s'
        have hbefore : ∀ q ∈ pre, ∃ t, replyTo answer q = .ok t := by
          intro q hq
          obtain ⟨t, ht⟩ := before q hq
          exact ⟨t, by rw [replyTo, ht]; rfl⟩
        have hfailing : replyTo answer r = .error (raised f) := by
          rw [replyTo, failing]
          rfl
        have hall := fetchAll_eq hsource (pre ++ r :: post) s'
        rw [mapM_eq_error_of_first hbefore hfailing] at hall
        simp only [fetchChildren, requests, bind_apply, hall]
        rfl
      have hsupply : (x.supply (x.pageOf rows) e s).1.1 = .error (raised f) := by
        simp only [foundParents] at hchildren
        rw [supply, bind_apply, hfound]
        dsimp only
        rw [if_pos on, bind_apply, hchildren]
        rfl
      rw [gather, arranged]
      dsimp only
      rw [bind_apply]
      exact (mergeable_fst _).trans (by rw [hsupply]; rfl)

/-- For every order in which a pool takes up requests, and in which answers come in, an expansion
has the report and leaves the table that it has and leaves without a pool; if it fails, the table is
as it was. -/
theorem expand_pooled (x : Engine σ) {answer : Request → Except Failure Table}
    (hsource : x.source.Answers answer) (order : Nat → List Nat)
    (complete : ∀ n, (order n).Perm (List.range n)) (t : Table) (e : Expansion) (s s' : σ) :
    (((x.pooled order complete).expandInPlace e).run t s).1 =
        ((x.single.expandInPlace e).run t s').1 ∧
      ((x.pooled order complete).expand t e s).1 = (x.single.expand t e s').1 ∧
      (∀ cause, ((x.pooled order complete).expand t e s).1.outcome = .error cause →
        (((x.pooled order complete).expandInPlace e).run t s).1.2 = t) ∧
      (∀ f, ¬ x.Idle t e → (x.pooled order complete).FirstFailing answer t.rows e f →
        ((x.pooled order complete).expand t e s).1.outcome = .error (raised f)) ∧
      ∀ (workers : Nat) (requests : List Request) (p : Pool),
        p.Finishes workers (replyAt answer requests) requests.length →
        collect requests p.arrived = (x.single.fetchEach requests s').1 := by
  have hpooled : (x.pooled order complete).source.Answers answer := hsource
  have hsingle : x.single.source.Answers answer := hsource
  have hpaired : Paired (fun _ _ => True) (x.pooled order complete) x.single :=
    .of_answers hpooled hsingle rfl rfl rfl
  refine ⟨(hpaired.expandInPlace e t s s' trivial).1, (hpaired.expand t e s s' trivial).1,
    fun cause => (x.pooled order complete).table_eq_of_error, fun f hbusy hfailing => ?_,
    fun workers requests p hp => collect_arrived hsingle hp s'⟩
  rw [(x.pooled order complete).expand_outcome_of_busy hbusy, hfailing.gather_eq hpooled]
  rfl

/-- Two parents whose children are asked for. -/
def neighbours : Table where
  columns := [⟨"id", .text⟩, ⟨"is_parent", .boolean⟩]
  rows := [[("id", .text "a"), ("is_parent", .bool true)],
    [("id", .text "b"), ("is_parent", .bool true)]]

/-- No children of either parent can be fetched, for different reasons. -/
def nobodyHome (r : Request) : Except Failure Table :=
  if r.query.filters = ["parent_id:a"] then .error (.reported .value "first")
  else .error (.reported .execution "second")

def doorbell : Engine Unit where
  source := .ofFunction nobodyHome

theorem arrange_neighbours : doorbell.hierarchy.arrange doorbell.room neighbours.rows =
    .ok (doorbell.hierarchy.page neighbours.rows) := rfl

def backwards (n : Nat) : List Nat := (List.range n).reverse

theorem backwards_perm (n : Nat) : (backwards n).Perm (List.range n) := List.reverse_perm _

/-- The pool asks for the children of the second parent first, and the failure is that for the
first. -/
theorem doorbell_expand_pooled :
    doorbell.source.Answers nobodyHome ∧ (∀ n, (backwards n).Perm (List.range n)) ∧
      ((doorbell.pooled backwards backwards_perm).expand neighbours { mode := .child } ()).1 =
        (doorbell.single.expand neighbours { mode := .child } ()).1 ∧
      ((doorbell.pooled backwards backwards_perm).expand neighbours
          { mode := .child } ()).1.outcome = .error (.execution (.supplementFailed "first")) := by
  have hsource : doorbell.source.Answers nobodyHome := fun _ _ => rfl
  have hpooled := expand_pooled doorbell hsource backwards backwards_perm neighbours
    { mode := .child } () ()
  have hbusy : ¬ doorbell.Idle neighbours { mode := .child } :=
    doorbell.not_idle (by decide) (by decide) (by decide)
  refine ⟨hsource, backwards_perm, hpooled.2.1, ?_⟩
  have hpage : doorbell.pageOf neighbours.rows = doorbell.hierarchy.page neighbours.rows :=
    (doorbell.arrange_eq_pageOf arrange_neighbours).symm
  have hrequests : ∃ r post, doorbell.requestChildren { mode := .child }
      (doorbell.pageOf neighbours.rows ++ foundParents none) = .ok ([] ++ r :: post) ∧
        nobodyHome r = .error (.reported .value "first") := by
    rw [hpage]
    exact ⟨_, _, rfl, rfl⟩
  obtain ⟨r, post, hrequests, hfailing⟩ := hrequests
  apply hpooled.2.2.2.1 (.reported .value "first") hbusy
  exact .intro (hpage ▸ arrange_neighbours) (.skipped rfl) (by simp) rfl hrequests (by simp)
    hfailing

end Engine

end CriteriaSearch
