import CriteriaSearch.Proofs.Url.Form
import CriteriaSearch.Url

/-!
# Query parts of URLs

A query part behind an address that has none becomes the query part of its URL. The scheme, the host
and the path stay those of the address.
-/

namespace CriteriaSearch.Url

/-- An address that ends where a query part or a fragment would begin. -/
abbrev Whole (cs : List Char) : Prop := ∀ c ∈ cs, c ≠ '?' ∧ c ≠ '#'

variable {cs w : List Char}

theorem splitScheme_withQuery (cs w : List Char) :
    splitScheme (cs ++ '?' :: w) = ((splitScheme cs).1, (splitScheme cs).2 ++ '?' :: w) := by
  have htake : (cs ++ '?' :: w).takeWhile isSchemeChar = cs.takeWhile isSchemeChar :=
    Text.takeWhile_append_stop (by decide) cs w
  have hdrop : (cs ++ '?' :: w).dropWhile isSchemeChar = cs.dropWhile isSchemeChar ++ '?' :: w :=
    Text.dropWhile_append_stop (by decide) cs w
  cases cs with
  | nil => rfl
  | cons c cs =>
      unfold splitScheme
      rw [htake, hdrop]
      cases hc : c.isAlpha with
      | false => simp [hc]
      | true =>
          cases (c :: cs).dropWhile isSchemeChar with
          | nil => simp [hc]
          | cons d rest =>
              by_cases hd : d = ':'
              · simp [hc, hd]
              · simp [hc, hd]

theorem splitHost_withQuery (cs w : List Char) :
    splitHost (cs ++ '?' :: w) = ((splitHost cs).1, (splitHost cs).2 ++ '?' :: w) := by
  by_cases hslashes : ∃ rest, cs = '/' :: '/' :: rest
  · obtain ⟨rest, rfl⟩ := hslashes
    refine Prod.ext ?_ ?_
    · exact Text.takeWhile_append_stop (by decide) rest w
    · exact Text.dropWhile_append_stop (by decide) rest w
  · -- A single slash at the end is followed by the question mark, not by a second slash.
    have hnone : ∀ rest, cs ++ '?' :: w ≠ '/' :: '/' :: rest := by
      intro rest heq
      rcases cs with - | ⟨c, - | ⟨d, cs⟩⟩
      · simp at heq
      · simp at heq
      · obtain ⟨rfl, hrest⟩ := List.cons.inj heq
        obtain ⟨rfl, -⟩ := List.cons.inj hrest
        exact hslashes ⟨cs, rfl⟩
    rw [splitHost.eq_2 _ hnone, splitHost.eq_2 _ fun rest heq => hslashes ⟨rest, heq⟩]

theorem pathPart_withQuery (cs w : List Char) :
    pathPart (cs ++ '?' :: w) = pathPart cs :=
  Text.takeWhile_append_stop (by decide) cs w

theorem queryPart_withQuery (hcs : Whole cs) (hw : '#' ∉ w) :
    queryPart (cs ++ '?' :: w) = w := by
  have htext : ∀ c ∈ cs ++ '?' :: w, (c != '#') = true := by
    intro c hc
    rw [bne_iff_ne]
    rintro rfl
    rcases List.mem_append.mp hc with hc | hc
    · exact (hcs '#' hc).2 rfl
    · rcases List.mem_cons.mp hc with heq | hc
      · exact absurd heq (by decide)
      · exact hw hc
  have hnone : cs.dropWhile (· != '?') = [] :=
    List.dropWhile_eq_nil_iff.mpr fun c hc => bne_iff_ne.mpr (hcs c hc).1
  rw [queryPart, List.takeWhile_eq_self_iff.mpr htext, Text.dropWhile_append_stop (by decide),
    hnone]
  rfl

/-! ### URLs -/

theorem splitScheme_rest_subset (cs : List Char) : (splitScheme cs).2 ⊆ cs := by
  unfold splitScheme
  split
  · split
    · rename_i rest heq
      intro c hc
      exact List.dropWhile_subset isSchemeChar (heq ▸ List.mem_cons_of_mem ':' hc)
    · exact List.Subset.refl cs
  · exact List.Subset.refl cs

theorem splitHost_rest_subset (cs : List Char) : (splitHost cs).2 ⊆ cs := by
  unfold splitHost
  split
  · rename_i rest
    intro c hc
    have hmem : c ∈ rest := List.dropWhile_subset _ hc
    simp [hmem]
  · exact List.Subset.refl _

/-- A query part behind an address is found as it is, if it has no number sign and nothing that a
URL leaves out. -/
theorem ofText_withQuery {base : String} (hbase : Whole base.toList) (hnumber : '#' ∉ w)
    (hkept : ∀ c ∈ w, isRemoved c = false) :
    ofText (base ++ "?" ++ String.ofList w) =
      (ofText base).map fun parts => { parts with query := String.ofList w } := by
  have hlist : (base ++ "?" ++ String.ofList w).toList = base.toList ++ '?' :: w := by
    simp [String.toList_append]
  have hfilter : (('?' :: w).filter (!isRemoved ·)) = '?' :: w := by
    refine List.filter_eq_self.mpr (List.forall_mem_cons.mpr ⟨by decide, fun c hc => ?_⟩)
    rw [hkept c hc, Bool.not_false]
  have hstripped : ((base.toList ++ '?' :: w).dropWhile isLeading).filter (!isRemoved ·) =
      (base.toList.dropWhile isLeading).filter (!isRemoved ·) ++ '?' :: w := by
    rw [Text.dropWhile_append_stop (by decide), List.filter_append, hfilter]
  unfold ofText
  rw [hlist, hstripped]
  generalize hcs : (base.toList.dropWhile isLeading).filter (!isRemoved ·) = cs
  have hwhole : Whole (splitHost (splitScheme cs).2).2 := by
    intro c hc
    have hmem : c ∈ cs := splitScheme_rest_subset cs (splitHost_rest_subset _ hc)
    rw [← hcs] at hmem
    exact hbase c (List.dropWhile_subset _ (List.mem_filter.mp hmem).1)
  simp only [splitScheme_withQuery, splitHost_withQuery, pathPart_withQuery,
    queryPart_withQuery hwhole hnumber]
  cases checkHost (splitHost (splitScheme cs).2).1 with
  | error e => rfl
  | ok _ =>
      simp only [bind, Except.bind]
      split <;> rfl

end CriteriaSearch.Url
