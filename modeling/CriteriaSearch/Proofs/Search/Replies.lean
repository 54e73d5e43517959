import CriteriaSearch.Proofs.Search.Gathering

/-!
# What is found in the replies

The parents and children of a family are told by the exchanges of its expansion. The parents are the
rows in the reply to the one request for missing parents, and the children of a parent are those in
the reply to a request for them, each key once.
-/

namespace CriteriaSearch

namespace Engine

variable {σ : Type} (x : Engine σ)

/-- The reply to the request for the parents that are missing on a page. -/
def ParentReply (page : List Node) (exchanges : List Exchange) (reply : Table) : Prop :=
  ∃ r, x.parentRequest (Supplement.missingParents page) = .ok r ∧ .answered r reply ∈ exchanges

/-- A reply to a request for the children of a parent. -/
def ChildReply (e : Expansion) (exchanges : List Exchange) (parent : String) (reply : Table) :
    Prop :=
  ∃ known query,
    Query.compile x.settings (Supplement.childCriteria x.hierarchy known parent) = .ok query ∧
      .answered ⟨query, some e.offset, some e.limit⟩ reply ∈ exchanges

variable {x} {e : Expansion} {page known : List Node} {rows : List Row}
  {exchanges : List Exchange} {f : Family}

theorem offset_of_parentRequest {ids : List String} {r : Request}
    (h : x.parentRequest ids = .ok r) : r.offset = none := by
  obtain ⟨query, -, h⟩ := bind_eq_ok h
  rw [← Except.ok.inj h]

/-- Only requests for children have a window of their own. -/
theorem ChildStep.offset_ne {children : Named (List Node)}
    (h : x.ChildStep e known exchanges (.ok children)) {r : Request} {reply : Table}
    (hmem : .answered r reply ∈ exchanges) : r.offset ≠ none := by
  rcases h.cases_of_ok with ⟨-, rfl, -⟩ | ⟨requests, tables, -, request, settled, -, -⟩
  · cases hmem
  · obtain ⟨hlength, hrequest⟩ := getElem_of_childRequests request
    cases settled with
    | answered length_eq perm =>
        obtain ⟨i, hi, heq⟩ := List.mem_iff_getElem.mp (perm.mem_iff.mp hmem)
        rw [List.getElem_zipWith] at heq
        rw [List.length_zipWith, length_eq, Nat.min_self] at hi
        obtain ⟨query, -, hr⟩ := hrequest i (hlength ▸ hi) hi
        have hsame : requests[i] = r := congrArg Exchange.request heq
        rw [← hsame, hr]
        exact Option.some_ne_none _

/-- The fetched parents are the rows in the reply to the request for them. -/
theorem Supplied.mem_parents_iff (h : x.Supplied page e exchanges (.ok f)) {q : Node} :
    q ∈ f.parents ↔ ∃ reply, x.ParentReply page exchanges reply ∧ q ∈ x.nodes reply := by
  cases h with
  | @complete xs ys found children parents rest =>
      have hfirst : ∀ {r : Request} {reply : Table},
          x.parentRequest (Supplement.missingParents page) = .ok r →
          .answered r reply ∈ xs ++ ys → .answered r reply ∈ xs := by
        intro r reply hr hmem
        refine (List.mem_append.mp hmem).resolve_right fun hys => ?_
        exact rest.offset_ne hys (offset_of_parentRequest hr)
      have hparents : (x.familyOf page e (foundParents found) children).parents =
          foundParents found := rfl
      rw [hparents]
      cases parents with
      | skipped off =>
          refine ⟨fun hq => absurd hq List.not_mem_nil, ?_⟩
          rintro ⟨reply, ⟨r, hr, hmem⟩, -⟩
          cases hfirst hr hmem
      | complete on nil =>
          refine ⟨fun hq => absurd hq List.not_mem_nil, ?_⟩
          rintro ⟨reply, ⟨r, hr, hmem⟩, -⟩
          cases hfirst hr hmem
      | @fetched r t on ne_nil request =>
          constructor
          · intro hq
            exact ⟨t, ⟨r, request, List.mem_append_left _ List.mem_cons_self⟩, hq⟩
          · rintro ⟨reply, ⟨r', hr, hmem⟩, hq⟩
            obtain ⟨-, heq⟩ := Exchange.mk.inj (List.mem_singleton.mp (hfirst hr hmem))
            rwa [Except.ok.inj heq] at hq

theorem Supplied.includesParents (h : x.Supplied page e exchanges (.ok f)) {q : Node}
    (hq : q ∈ f.parents) : e.includesParents = true := by
  cases h with
  | complete parents rest =>
      cases parents with
      | skipped off => cases hq
      | complete on nil => exact on
      | fetched on ne_nil request => exact on

/-- If children are wanted, then there is a reply for every known parent. -/
theorem Supplied.exists_childReply (on : e.includesChildren = true)
    (h : x.Supplied page e exchanges (.ok f)) {p : String}
    (hp : p ∈ Supplement.parentIds (f.page ++ f.parents)) :
    ∃ reply, x.ChildReply e exchanges p reply ∧
      f.children.get? p = some (Supplement.distinct (x.nodes reply)) := by
  cases h with
  | complete parents rest =>
      obtain ⟨query, reply, hquery, hex, hget⟩ := rest.exists_answer on hp
      exact ⟨reply, ⟨_, query, hquery, List.mem_append_right _ hex⟩, hget⟩

/-- Fetched children are those in a reply for their parent. -/
theorem Supplied.childReply (h : x.Supplied page e exchanges (.ok f)) {p : String}
    {children : List Node} (hget : f.children.get? p = some children) :
    ∃ reply, x.ChildReply e exchanges p reply ∧
      children = Supplement.distinct (x.nodes reply) := by
  have hknown : e.includesChildren = true ∧ p ∈ Supplement.parentIds (f.page ++ f.parents) := by
    cases h with
    | complete parents rest => exact rest.mem_parentIds hget
  obtain ⟨reply, hreply, hget'⟩ := h.exists_childReply hknown.1 hknown.2
  exact ⟨reply, hreply, Option.some.inj (hget.symm.trans hget')⟩

/-- A fetched child is a row in a reply for its parent. -/
theorem Supplied.mem_childReply (h : x.Supplied page e exchanges (.ok f)) {parent c : Node}
    (hc : c ∈ f.fetchedChildren parent) : ∃ reply, x.ChildReply e exchanges parent.id reply ∧
      ∃ row ∈ reply.rows, c = x.hierarchy.node .fetched row := by
  have hc' : c ∈ (f.children.get? parent.id).getD [] := hc
  cases hget : f.children.get? parent.id with
  | none =>
      rw [hget] at hc'
      cases hc'
  | some children =>
      rw [hget] at hc'
      obtain ⟨reply, hreply, rfl⟩ := h.childReply hget
      obtain ⟨row, hrow, rfl⟩ := List.mem_map.mp ((eraseDupsBy_sublist _ _).subset hc')
      exact ⟨reply, hreply, row, hrow, rfl⟩

end Engine

end CriteriaSearch
