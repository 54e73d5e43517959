import Mathlib.Tactic.SplitIfs
import CriteriaSearch.Proofs.Number.Numeral
import CriteriaSearch.Value.Text

/-!
# Values that can be written

A value can be written if there is no integer in it that is too long for a numeral. What is empty
can always be written.
-/

namespace CriteriaSearch.Value

theorem areWritable_iff {vs : List Value} :
    areWritable vs = true ↔ ∀ v ∈ vs, v.isWritable = true := by
  induction vs with
  | nil => simp [areWritable]
  | cons v vs ih => simp [areWritable, ih]

theorem areFieldsWritable_iff {fields : Row} :
    areFieldsWritable fields = true ↔ ∀ p ∈ fields, p.2.isWritable = true := by
  induction fields with
  | nil => simp [areFieldsWritable]
  | cons p fields ih =>
      obtain ⟨name, v⟩ := p
      simp [areFieldsWritable, ih]

theorem isWritable_int_iff {n : Int} :
    (Value.int n).isWritable = true ↔ Numeral.width n.natAbs ≤ Numeral.maxDigits := by
  rw [isWritable, Numeral.text?]
  split_ifs with hwidth
  · exact iff_of_true rfl hwidth
  · exact iff_of_false Bool.noConfusion hwidth

/-! ### Empty values -/

theorem isWritable_of_isNull {v : Value} (h : v.isNull = true) : v.isWritable = true := by
  cases v with
  | null => rfl
  | _ => cases h

/-- Zero and what is empty can be written. -/
theorem isWritable_of_not_isTruthy {v : Value} (h : v.isTruthy = false) : v.isWritable = true := by
  cases v with
  | int n =>
      have hn : n = 0 := by simpa [Value.isTruthy] using h
      subst hn
      decide
  | tuple items =>
      have hnil : items = [] := by simpa [Value.isTruthy] using h
      subst hnil
      rfl
  | list items =>
      have hnil : items = [] := by simpa [Value.isTruthy] using h
      subst hnil
      rfl
  | record fields =>
      have hnil : fields = [] := by simpa [Value.isTruthy] using h
      subst hnil
      rfl
  | _ => rfl

end CriteriaSearch.Value
