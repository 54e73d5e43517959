import CriteriaSearch.Proofs.Text.Blank
import CriteriaSearch.Text.Case

/-!
# Letters and words

A letter in either case is a letter and no blank, and a word in any letter case consists of letters.
-/

namespace CriteriaSearch.Text

theorem toNat_of_isAlpha {c : Char} (hc : c.isAlpha = true) : 65 ≤ c.toNat ∧ c.toNat ≤ 122 := by
  have hletter : (decide ('A'.val ≤ c.val ∧ c.val ≤ 'Z'.val) ||
      decide ('a'.val ≤ c.val) && decide (c.val ≤ 'z'.val)) = true := hc
  simp only [Bool.or_eq_true, Bool.and_eq_true, decide_eq_true_eq] at hletter
  rcases hletter with ⟨hlow, hhigh⟩ | ⟨hlow, hhigh⟩
  · exact ⟨hlow, Nat.le_trans hhigh (by decide)⟩
  · exact ⟨Nat.le_trans (by decide) hlow, hhigh⟩

theorem isBlank_of_isAlpha {c : Char} (hc : c.isAlpha = true) : isBlank c = false := by
  obtain ⟨hlow, hhigh⟩ := toNat_of_isAlpha hc
  simp only [isBlank, Bool.or_eq_false_iff, Bool.and_eq_false_iff, decide_eq_false_iff_not,
    beq_eq_false_iff_ne]
  omega

theorem isAlpha_of_toLower {c : Char} (h : c.toLower.isAlpha = true) : c.isAlpha = true := by
  by_cases hupper : c.isUpper = true
  · exact Bool.or_eq_true_iff.mpr (.inl hupper)
  · have hsame : c.toLower = c := by
      unfold Char.toLower
      exact dif_neg fun hrange => hupper (decide_eq_true hrange)
    rwa [hsame] at h

/-- A word in any letter case consists of letters if it does so in lower case. -/
theorem isAlpha_of_lower {word : String} {w : List Char}
    (hword : word.toList.all Char.isAlpha = true) (h : lower w = word.toList) :
    ∀ c ∈ w, c.isAlpha = true := by
  intro c hc
  apply isAlpha_of_toLower
  apply List.all_eq_true.mp hword
  rw [← h]
  exact List.mem_map_of_mem hc

end CriteriaSearch.Text
