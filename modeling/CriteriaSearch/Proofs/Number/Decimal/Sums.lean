import CriteriaSearch.Number.Decimal
import CriteriaSearch.Proofs.Number.Numeral
import Mathlib.Algebra.Order.Field.Power
import Mathlib.Data.Rat.Cast.Order
import Mathlib.Tactic.Linarith
import Mathlib.Tactic.NormNum
import Mathlib.Tactic.Positivity
import Mathlib.Tactic.Ring

/-!
# Exact sums of decimals

The sum of a finite decimal with an integer is the exact one if that fits, that is, has at most 28
digits from a place on that is not below the last one, and stays under the greatest power of ten.
Otherwise it is rounded to another number, or there is none. An operand that was replaced by a
nearby one for being too small never leaves a sum that fits.
-/

namespace CriteriaSearch.Decimal

open Numeral

/-! ### Values -/

/-- A coefficient with a sign at a power of ten. -/
def value (negative : Bool) (c : ℕ) (e : ℤ) : ℚ := (signed negative c : ℚ) * 10 ^ e

/-- The number that a finite decimal stands for. -/
def value? : Decimal → Option ℚ
  | .finite negative c e => some (value negative c e)
  | _ => none

/-- A number has a decimal with `precision` digits whose exponent is in range. -/
def Fits (q : ℚ) : Prop :=
  (∃ m e : ℤ, m.natAbs < 10 ^ precision ∧ tinyExponent ≤ e ∧ q = m * 10 ^ e) ∧
    |q| < 10 ^ (maxExponent + 1)

theorem ten_zpow_pos (e : ℤ) : (0 : ℚ) < 10 ^ e := zpow_pos Nat.ofNat_pos e

/-- Coarse units are whole multiples of finer ones. -/
theorem ten_zpow_eq {e f : ℤ} (h : e ≤ f) : (10 : ℚ) ^ f = (10 ^ (f - e).toNat : ℕ) * 10 ^ e := by
  obtain ⟨k, rfl⟩ := Int.le.dest h
  rw [add_sub_cancel_left, Int.toNat_natCast, zpow_add₀ (OfNat.ofNat_ne_zero 10), zpow_natCast,
    mul_comm, Nat.cast_pow]
  norm_num

theorem value_eq (negative : Bool) (c : ℕ) (e : ℤ) :
    value negative c e = if negative then -(c * 10 ^ e : ℚ) else c * 10 ^ e := by
  cases negative <;> simp [value, signed]

theorem abs_value (negative : Bool) (c : ℕ) (e : ℤ) : |value negative c e| = c * 10 ^ e := by
  have hpos : (0 : ℚ) ≤ c * 10 ^ e := by positivity
  cases negative <;> simp [value_eq, abs_of_nonneg hpos]

theorem fits_abs {q : ℚ} : Fits |q| ↔ Fits q := by
  unfold Fits
  rw [abs_abs]
  refine and_congr_left fun _ => ?_
  rcases abs_choice q with h | h <;> rw [h]
  constructor
  · rintro ⟨m, e, hm, he, hq⟩
    exact ⟨-m, e, by simpa using hm, he, by rw [← neg_neg q, hq]; simp⟩
  · rintro ⟨m, e, hm, he, rfl⟩
    exact ⟨-m, e, by simpa using hm, he, by simp⟩

theorem fits_value (negative : Bool) (c : ℕ) (e : ℤ) :
    Fits (value negative c e) ↔ Fits (c * 10 ^ e) := by
  rw [← fits_abs, abs_value]

/-! ### Leading digits -/

theorem lt_pow_adjusted (c : ℕ) (e : ℤ) : (c : ℚ) * 10 ^ e < 10 ^ (adjusted c e + 1) := by
  have hexp : adjusted c e + 1 = width c + e := by
    unfold adjusted
    omega
  rw [hexp, zpow_add₀ (OfNat.ofNat_ne_zero 10), zpow_natCast]
  have hc : (c : ℚ) < 10 ^ width c := by exact_mod_cast lt_pow_width c
  exact mul_lt_mul_of_pos_right hc (ten_zpow_pos e)

theorem pow_adjusted_le {c : ℕ} (hc : c ≠ 0) (e : ℤ) : (10 : ℚ) ^ adjusted c e ≤ c * 10 ^ e := by
  have hwidth := width_pos c
  have hexp : adjusted c e = (width c - 1 : ℕ) + e := by
    unfold adjusted
    omega
  rw [hexp, zpow_add₀ (OfNat.ofNat_ne_zero 10), zpow_natCast]
  have hle : (10 : ℚ) ^ (width c - 1) ≤ c := by exact_mod_cast pow_width_le hc
  exact mul_le_mul_of_nonneg_right hle (ten_zpow_pos e).le

/-- The place of the leading digit depends on the number only. -/
theorem adjusted_le_of_lt {c : ℕ} {e k : ℤ} (hc : c ≠ 0) (h : (c : ℚ) * 10 ^ e < 10 ^ (k + 1)) :
    adjusted c e ≤ k :=
  Int.lt_add_one_iff.mp
    ((zpow_lt_zpow_iff_right₀ Nat.one_lt_ofNat).mp ((pow_adjusted_le hc e).trans_lt h))

theorem abs_lt_of_digits {m : ℤ} {k : ℕ} (hm : m.natAbs < 10 ^ k) (x : ℤ) :
    |(m : ℚ) * 10 ^ x| < 10 ^ (k + x) := by
  have hcast : |(m : ℚ)| < 10 ^ k := by
    rw [← Int.cast_abs, Int.abs_eq_natAbs]
    exact_mod_cast hm
  rw [abs_mul, abs_of_pos (ten_zpow_pos x), zpow_add₀ (OfNat.ofNat_ne_zero 10), zpow_natCast]
  exact mul_lt_mul_of_pos_right hcast (ten_zpow_pos x)

/-! ### Rounding -/

theorem shiftRight_mul (m places : ℕ) : shiftRight (m * 10 ^ places) places = m := by
  have hpos : 0 < 10 ^ places := Nat.pow_pos (by decide)
  simp [shiftRight, hpos]

theorem shiftRight_le (c places : ℕ) : shiftRight c places ≤ c / 10 ^ places + 1 := by
  unfold shiftRight
  simp only [Nat.pow_eq]
  split_ifs <;> omega

/-- A number is a whole multiple of any unit below its last place. -/
theorem pow_dvd_of_eq {c k : ℕ} {e x m : ℤ} (hx : e + k ≤ x)
    (h : (c : ℚ) * 10 ^ e = m * 10 ^ x) : 10 ^ k ∣ c := by
  rw [ten_zpow_eq (show e ≤ x by omega), ← mul_assoc] at h
  have hcast := mul_right_cancel₀ (ten_zpow_pos e).ne' h
  have hc : (c : ℤ) = m * (10 ^ (x - e).toNat : ℕ) := by exact_mod_cast hcast
  have hdvd : (10 ^ k : ℕ) ∣ 10 ^ (x - e).toNat := Nat.pow_dvd_pow 10 (by omega)
  have hint : ((10 ^ k : ℕ) : ℤ) ∣ c := by
    rw [hc]
    exact (Int.natCast_dvd_natCast.mpr hdvd).mul_left m
  exact Int.natCast_dvd_natCast.mp hint

/-- The digits and the exponent of a sum, before it is seen whether it is too great. -/
def settle (c : ℕ) (e : ℤ) : ℕ × ℤ :=
  if adjusted c e < minExponent ∧ e < tinyExponent then
    (if width c < (tinyExponent - e).toNat then 0 else shiftRight c (tinyExponent - e).toNat,
      tinyExponent)
  else roundDigits c e

theorem finish_eq (negative : Bool) {c : ℕ} (hc : c ≠ 0) (e : ℤ) : finish negative c e =
    if maxExponent < adjusted (settle c e).1 (settle c e).2 then .error .overflow
    else .ok (.finite negative (settle c e).1 (settle c e).2) := by
  unfold finish settle
  rw [if_neg hc]

theorem roundDigits_bounds {c : ℕ} {e : ℤ} (he : minExponent ≤ adjusted c e ∨ tinyExponent ≤ e) :
    (roundDigits c e).1 < 10 ^ precision ∧ tinyExponent ≤ (roundDigits c e).2 := by
  have hlow : tinyExponent ≤ e + (width c - precision : ℕ) := by
    unfold adjusted at he
    unfold tinyExponent precision at *
    omega
  have hwidth := lt_pow_width c
  unfold roundDigits
  by_cases hextra : width c - precision = 0
  · rw [if_pos hextra]
    rw [hextra] at hlow
    have hle : width c ≤ precision := by omega
    exact ⟨hwidth.trans_le (Nat.pow_le_pow_right (by decide) hle), by simpa using hlow⟩
  · rw [if_neg hextra]
    -- Rounding up can reach the next power of ten, but not more.
    have hquot : c / 10 ^ (width c - precision) < 10 ^ precision := by
      apply Nat.div_lt_of_lt_mul
      rw [← pow_add]
      exact hwidth.trans_le (Nat.pow_le_pow_right (by decide) (by omega))
    have hshift := shiftRight_le c (width c - precision)
    dsimp only
    split
    · refine ⟨?_, by omega⟩
      apply Nat.div_lt_of_lt_mul
      unfold precision at *
      omega
    · rename_i hcarry
      refine ⟨?_, hlow⟩
      apply Nat.lt_of_le_of_ne (by omega)
      intro heq
      refine hcarry (width_eq_succ heq.ge ?_)
      exact heq.trans_lt (Nat.pow_lt_pow_right (by decide) (by omega))

theorem settle_bounds (c : ℕ) (e : ℤ) :
    (settle c e).1 < 10 ^ precision ∧ tinyExponent ≤ (settle c e).2 := by
  unfold settle
  by_cases htiny : adjusted c e < minExponent ∧ e < tinyExponent
  · rw [if_pos htiny]
    refine ⟨?_, le_rfl⟩
    dsimp only
    split
    · decide
    · have hwidth : width c ≤ (tinyExponent - e).toNat + 27 := by
        unfold adjusted at htiny
        unfold tinyExponent precision at *
        omega
      have hlt : c < 10 ^ ((tinyExponent - e).toNat + 27) :=
        (lt_pow_width c).trans_le (Nat.pow_le_pow_right (by decide) hwidth)
      rw [pow_add] at hlt
      have hquot := Nat.div_lt_of_lt_mul hlt
      have hshift := shiftRight_le c (tinyExponent - e).toNat
      unfold precision
      omega
  · rw [if_neg htiny]
    exact roundDigits_bounds (by omega)

theorem shiftRight_of_dvd {c k : ℕ} (h : 10 ^ k ∣ c) : shiftRight c k * 10 ^ k = c := by
  obtain ⟨n, rfl⟩ := h
  rw [mul_comm (10 ^ k) n, shiftRight_mul]

theorem shiftRight_value {c k : ℕ} (e : ℤ) (h : 10 ^ k ∣ c) :
    (shiftRight c k : ℚ) * 10 ^ (e + k) = c * 10 ^ e := by
  have hc : ((shiftRight c k * 10 ^ k : ℕ) : ℚ) = c := by rw [shiftRight_of_dvd h]
  rw [← hc, zpow_add₀ (OfNat.ofNat_ne_zero 10), zpow_natCast]
  push_cast
  ring

/-- Digits that do not count are zeros, and rounding cuts off nothing else. -/
theorem roundDigits_value {c : ℕ} {e m x : ℤ} (hc : c ≠ 0) (hm : m.natAbs < 10 ^ precision)
    (hq : (c : ℚ) * 10 ^ e = m * 10 ^ x) :
    ((roundDigits c e).1 : ℚ) * 10 ^ (roundDigits c e).2 = c * 10 ^ e := by
  unfold roundDigits
  by_cases hextra : width c - precision = 0
  · rw [if_pos hextra]
  · rw [if_neg hextra]
    have hlead : adjusted c e < precision + x := by
      rw [← zpow_lt_zpow_iff_right₀ (Nat.one_lt_ofNat : (1 : ℚ) < 10)]
      apply lt_of_le_of_lt (pow_adjusted_le hc e)
      apply lt_of_le_of_lt (le_abs_self _)
      rw [hq]
      exact abs_lt_of_digits hm x
    have hdvd : 10 ^ (width c - precision) ∣ c := by
      refine pow_dvd_of_eq ?_ hq
      unfold adjusted at hlead
      omega
    have hfull : ¬ width (shiftRight c (width c - precision)) = precision + 1 := by
      intro hwide
      have hlt : shiftRight c (width c - precision) < 10 ^ precision := by
        apply Nat.lt_of_mul_lt_mul_right (a := 10 ^ (width c - precision))
        rw [shiftRight_of_dvd hdvd, ← pow_add]
        exact (lt_pow_width c).trans_le (Nat.pow_le_pow_right (by decide) (by omega))
      have hle := width_le_of_lt (by decide) hlt
      omega
    dsimp only
    rw [if_neg hfull]
    exact shiftRight_value e hdvd

theorem settle_value {c : ℕ} {e : ℤ} (hc : c ≠ 0) (h : Fits (c * 10 ^ e)) :
    ((settle c e).1 : ℚ) * 10 ^ (settle c e).2 = c * 10 ^ e := by
  obtain ⟨⟨m, x, hm, hx, hq⟩, -⟩ := h
  unfold settle
  by_cases htiny : adjusted c e < minExponent ∧ e < tinyExponent
  · rw [if_pos htiny]
    have hplaces : e + (tinyExponent - e).toNat = tinyExponent := by omega
    have hdvd : 10 ^ (tinyExponent - e).toNat ∣ c := pow_dvd_of_eq (by omega) hq
    have hwidth : ¬ width c < (tinyExponent - e).toNat := by
      intro hlt
      have hle := Nat.le_of_dvd (Nat.pos_of_ne_zero hc) hdvd
      have hpow := (lt_pow_width c).trans_le (Nat.pow_le_pow_right (by decide) hlt.le)
      omega
    have hvalue := shiftRight_value e hdvd
    rw [hplaces] at hvalue
    rwa [if_neg hwidth]
  · rw [if_neg htiny]
    exact roundDigits_value hc hm hq

theorem fits_of_bounds {c : ℕ} {e : ℤ} (hc : c < 10 ^ precision) (he : tinyExponent ≤ e)
    (hmax : adjusted c e ≤ maxExponent) : Fits (c * 10 ^ e) := by
  refine ⟨⟨c, e, by simpa using hc, he, by simp⟩, ?_⟩
  rw [abs_of_nonneg (by positivity)]
  apply (lt_pow_adjusted c e).trans_le
  apply zpow_le_zpow_right₀ Nat.one_le_ofNat
  omega

/-- Every result is written with digits and an exponent in range. -/
theorem bounds_of_finish {negative : Bool} {c : ℕ} {e : ℤ} {d : Decimal}
    (h : finish negative c e = .ok d) : ∃ m x, d = .finite negative m x ∧
      m < 10 ^ precision ∧ tinyExponent ≤ x ∧ adjusted m x ≤ maxExponent := by
  by_cases hc : c = 0
  · subst hc
    have hd : d = .finite negative 0 (max tinyExponent (min e maxExponent)) :=
      (Except.ok.inj h).symm
    refine ⟨0, _, hd, by decide, le_max_left _ _, ?_⟩
    have hwidth : width 0 = 1 := rfl
    unfold adjusted
    rw [hwidth]
    unfold tinyExponent minExponent maxExponent precision
    omega
  · rw [finish_eq negative hc] at h
    obtain ⟨hdigits, hlow⟩ := settle_bounds c e
    split at h
    · cases h
    · rename_i hmax
      exact ⟨_, _, (Except.ok.inj h).symm, hdigits, hlow, not_lt.mp hmax⟩

theorem finish_exact {negative : Bool} {c : ℕ} {e : ℤ} (h : Fits (c * 10 ^ e)) :
    ∃ d, finish negative c e = .ok d ∧ d.value? = some (value negative c e) := by
  by_cases hc : c = 0
  · subst hc
    refine ⟨_, rfl, ?_⟩
    simp [value?, value_eq]
  · have hvalue := settle_value hc h
    have hpos : (0 : ℚ) ≤ c * 10 ^ e := by positivity
    have hne : (settle c e).1 ≠ 0 := by
      intro hzero
      rw [hzero, Nat.cast_zero, zero_mul, eq_comm, mul_eq_zero] at hvalue
      rcases hvalue with hcast | hpow
      · exact hc (Nat.cast_eq_zero.mp hcast)
      · exact (ten_zpow_pos e).ne' hpow
    have hmax : ¬ maxExponent < adjusted (settle c e).1 (settle c e).2 := by
      apply not_lt.mpr
      apply adjusted_le_of_lt hne
      rw [hvalue, ← abs_of_nonneg hpos]
      exact h.2
    rw [finish_eq negative hc, if_neg hmax]
    refine ⟨_, rfl, ?_⟩
    rw [value?, value_eq, value_eq, hvalue]

/-! ### Alignment -/

/-- A sum whose parts lie too far apart has too many digits. -/
theorem not_fits_of_far {a : ℤ} {e g : ℤ} {δ : ℚ} (hg : g ≤ e)
    (ha : (10 : ℚ) ^ (g + 28) ≤ |(a : ℚ) * 10 ^ e|) (hne : δ ≠ 0) (hδ : |δ| < 10 ^ (g - 1)) :
    ¬ Fits (a * 10 ^ e + δ) := by
  rintro ⟨⟨m, x, hm, -, hq⟩, -⟩
  by_cases hx : g ≤ x
  · -- Both numbers are multiples of the same unit, hence also their difference.
    rw [ten_zpow_eq hg, ten_zpow_eq hx] at hq
    have hmul : δ = ((m * (10 ^ (x - g).toNat : ℕ) - a * (10 ^ (e - g).toNat : ℕ) : ℤ) : ℚ) *
        10 ^ g := by
      push_cast at hq ⊢
      linarith
    generalize m * (10 ^ (x - g).toNat : ℕ) - a * (10 ^ (e - g).toNat : ℕ) = n at hmul
    have hn : n ≠ 0 := by
      rintro rfl
      exact hne (by simpa using hmul)
    have hone : (1 : ℚ) ≤ |(n : ℚ)| := by exact_mod_cast Int.one_le_abs hn
    have hlarge : (10 : ℚ) ^ g ≤ |δ| := by
      rw [hmul, abs_mul, abs_of_pos (ten_zpow_pos g)]
      exact le_mul_of_one_le_left (ten_zpow_pos g).le hone
    have hlt := (zpow_lt_zpow_iff_right₀ Nat.one_lt_ofNat).mp (hlarge.trans_lt hδ)
    omega
  · have hsum : |(a : ℚ) * 10 ^ e + δ| < 10 ^ (g + 27) := by
      rw [hq]
      apply (abs_lt_of_digits hm x).trans_le
      apply zpow_le_zpow_right₀ Nat.one_le_ofNat
      unfold precision
      omega
    have hsmall : |δ| < 10 ^ (g + 27) := hδ.trans (zpow_lt_zpow_right₀ Nat.one_lt_ofNat (by omega))
    have hstep : (10 : ℚ) ^ (g + 28) = 10 * 10 ^ (g + 27) := by
      rw [show g + 28 = 1 + (g + 27) by ring, zpow_add₀ (OfNat.ofNat_ne_zero 10), zpow_one]
    have htri : |(a : ℚ) * 10 ^ e| ≤ |(a : ℚ) * 10 ^ e + δ| + |δ| := by
      have hdiff := abs_sub ((a : ℚ) * 10 ^ e + δ) δ
      rwa [add_sub_cancel_right] at hdiff
    have hpos := ten_zpow_pos (g + 27)
    linarith

theorem nearby_value {c small : ℕ} {e f : ℤ} {negative other : Bool} (hc : c ≠ 0) (hf : f < e)
    (h : Fits (value negative c e + value other small f)) :
    (nearby c e small f).2 ≤ e ∧
      ((nearby c e small f).1 : ℚ) * 10 ^ (nearby c e small f).2 = small * 10 ^ f := by
  have hlow : e - 1 + (if precision < width c then 0 else (width c : ℤ) - precision - 1) ≤ e - 1 ∧
      e - 1 + (if precision < width c then 0 else (width c : ℤ) - precision - 1) + 29 ≤
        adjusted c e := by
    unfold adjusted precision
    split <;> omega
  unfold nearby
  dsimp only
  generalize e - 1 + (if precision < width c then 0 else (width c : ℤ) - precision - 1) = low
    at hlow ⊢
  by_cases hfar : adjusted small f < low
  · rw [if_pos hfar]
    have hsmall : small = 0 := by
      by_contra hne
      refine not_fits_of_far (g := low + 1) (by omega) ?_ ?_ ?_ h
      · have habs := abs_value negative c e
        unfold value at habs
        rw [habs]
        exact le_trans (zpow_le_zpow_right₀ Nat.one_le_ofNat (by omega)) (pow_adjusted_le hc e)
      · rw [← abs_pos, abs_value]
        have hpos : (0 : ℚ) < small := by exact_mod_cast Nat.pos_of_ne_zero hne
        exact mul_pos hpos (ten_zpow_pos f)
      · rw [abs_value]
        exact (lt_pow_adjusted small f).trans_le (zpow_le_zpow_right₀ Nat.one_le_ofNat (by omega))
    refine ⟨by omega, ?_⟩
    simp [hsmall]
  · rw [if_neg hfar]
    exact ⟨hf.le, rfl⟩

theorem align_value {c₁ c₂ : ℕ} {e₁ e₂ : ℤ} {negative other : Bool}
    (h : Fits (value negative c₁ e₁ + value other c₂ e₂)) :
    ((align c₁ e₁ c₂ e₂).1 : ℚ) * 10 ^ (align c₁ e₁ c₂ e₂).2.2 = c₁ * 10 ^ e₁ ∧
      ((align c₁ e₁ c₂ e₂).2.1 : ℚ) * 10 ^ (align c₁ e₁ c₂ e₂).2.2 = c₂ * 10 ^ e₂ := by
  have hscale : ∀ {e f : ℤ} (c : ℕ), f ≤ e →
      ((c * Nat.pow 10 (e - f).toNat : ℕ) : ℚ) * 10 ^ f = c * 10 ^ e := by
    intro e f c hf
    rw [ten_zpow_eq hf, Nat.cast_mul, mul_assoc, Nat.pow_eq]
  unfold align
  split_ifs with heq hlt hzero hzero
  · subst heq
    exact ⟨rfl, rfl⟩
  · simp [hzero]
  · obtain ⟨hle, hvalue⟩ := nearby_value hzero hlt h
    exact ⟨hscale c₁ hle, hvalue⟩
  · simp [hzero]
  · rw [add_comm] at h
    obtain ⟨hle, hvalue⟩ := nearby_value hzero (by omega) h
    exact ⟨hvalue, hscale c₂ hle⟩

/-! ### Sums -/

theorem addInt_eq_finish (negative : Bool) (c : ℕ) (e k : ℤ) :
    ∃ sign n, addInt (.finite negative c e) k = finish sign n (align c e k.natAbs 0).2.2 ∧
      signed sign n = signed negative (align c e k.natAbs 0).1 +
        signed (decide (k < 0)) (align c e k.natAbs 0).2.1 := by
  unfold addInt
  dsimp only
  generalize align c e k.natAbs 0 = p
  obtain ⟨a, b, x⟩ := p
  generalize decide (k < 0) = other
  dsimp only
  split_ifs with hsign heq hlt
  · subst hsign
    refine ⟨_, _, rfl, ?_⟩
    cases negative <;> simp [signed, add_comm]
  · subst heq
    refine ⟨_, _, rfl, ?_⟩
    cases negative <;> cases other <;> simp_all [signed]
  · refine ⟨_, _, rfl, ?_⟩
    cases negative <;> cases other <;> simp_all [signed] <;> omega
  · refine ⟨_, _, rfl, ?_⟩
    cases negative <;> cases other <;> simp_all [signed] <;> omega

theorem isFinite_addInt {d sum : Decimal} {k : ℤ} (h : d.addInt k = .ok sum) :
    sum.isFinite = d.isFinite := by
  cases d with
  | infinity negative =>
      cases h
      rfl
  | nan negative signalling payload =>
      cases signalling with
      | true => cases h
      | false =>
          cases h
          rfl
  | finite negative c e =>
      obtain ⟨sign, n, hfinish, -⟩ := addInt_eq_finish negative c e k
      rw [hfinish] at h
      obtain ⟨m, x, rfl, -⟩ := bounds_of_finish h
      rfl

theorem value_natAbs (k : ℤ) : value (decide (k < 0)) k.natAbs 0 = k := by
  rw [value, signed_natAbs, zpow_zero, mul_one]

/-- The sum of a finite decimal with an integer is exact exactly if it fits. -/
theorem addInt_exact_iff {d : Decimal} {q : ℚ} (hd : d.value? = some q) (k : ℤ) :
    (∃ sum, d.addInt k = .ok sum ∧ sum.value? = some (q + k)) ↔ Fits (q + k) := by
  cases d with
  | nan negative signalling payload => cases hd
  | infinity negative => cases hd
  | finite negative c e =>
      obtain rfl : value negative c e = q := Option.some.inj hd
      obtain ⟨sign, n, hsum, hsigned⟩ := addInt_eq_finish negative c e k
      rw [hsum]
      constructor
      · rintro ⟨sum, hfinish, hvalue⟩
        obtain ⟨m, x, rfl, hm, hx, hmax⟩ := bounds_of_finish hfinish
        rw [← Option.some.inj hvalue, fits_value]
        exact fits_of_bounds hm hx hmax
      · intro hfits
        rw [← value_natAbs k] at hfits ⊢
        obtain ⟨ha, hb⟩ := align_value hfits
        have hexact : value negative c e + value (decide (k < 0)) k.natAbs 0 =
            value sign n (align c e k.natAbs 0).2.2 := by
          have hcast : (signed sign n : ℚ) = signed negative (align c e k.natAbs 0).1 +
              signed (decide (k < 0)) (align c e k.natAbs 0).2.1 := by exact_mod_cast hsigned
          rw [value_eq, value_eq, ← ha, ← hb, ← value_eq, ← value_eq]
          simp only [value, hcast, add_mul]
        rw [hexact] at hfits ⊢
        exact finish_exact ((fits_value _ _ _).mp hfits)

end CriteriaSearch.Decimal
