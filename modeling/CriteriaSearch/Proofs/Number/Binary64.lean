import CriteriaSearch.Number.Binary64.Shortest
import CriteriaSearch.Proofs.Number.Decimal.RoundTrip
import CriteriaSearch.Proofs.Number.Decimal.Sums
import Mathlib.Tactic.FieldSimp

/-!
# Overflow of binary numbers

A magnitude is rounded to infinity exactly if it is not below the middle between the greatest number
and the next power of two. A finite number moved by one stays finite. The text of a finite number
has digits, signs, a point and an exponent mark only.
-/

namespace CriteriaSearch.Binary64

/-! ### Rounding -/

theorem scale_div (num den : ℕ) (e : ℤ) :
    ((scale num den e).1 : ℚ) / (scale num den e).2 = num / den * 2 ^ e := by
  unfold scale
  obtain ⟨k, rfl | rfl⟩ := Int.eq_nat_or_neg e
  · simp [Nat.pow_eq, mul_div_right_comm]
  · simp only [Nat.pow_eq, neg_neg, Int.toNat_natCast, Int.toNat_neg_natCast, pow_zero, mul_one,
      Nat.cast_mul, Nat.cast_pow, Nat.cast_ofNat, zpow_neg, zpow_natCast]
    rw [div_mul_eq_div_div, div_eq_mul_inv _ ((2 : ℚ) ^ k)]

theorem scale_den_pos {den : ℕ} (hden : 0 < den) (num : ℕ) (e : ℤ) : 0 < (scale num den e).2 :=
  Nat.mul_pos hden (Nat.pow_pos (by decide))

theorem scale_lt_iff {num den : ℕ} (hden : 0 < den) (e : ℤ) :
    (scale num den (-e)).1 < (scale num den (-e)).2 ↔ (num : ℚ) / den < 2 ^ e := by
  have hscaled : (0 : ℚ) < (scale num den (-e)).2 := by
    exact_mod_cast scale_den_pos hden num _
  have hcast : (scale num den (-e)).1 < (scale num den (-e)).2 ↔
      ((scale num den (-e)).1 : ℚ) < (scale num den (-e)).2 := Nat.cast_lt.symm
  rw [hcast, ← div_lt_one hscaled, scale_div, zpow_neg, ← div_eq_mul_inv,
    div_lt_one (zpow_pos Nat.ofNat_pos _)]

theorem log2_bounds {n : ℕ} (hn : 0 < n) :
    (2 : ℚ) ^ (Nat.log2 n : ℤ) ≤ n ∧ (n : ℚ) < 2 ^ (Nat.log2 n + 1 : ℤ) := by
  constructor
  · exact_mod_cast Nat.log2_self_le hn.ne'
  · exact_mod_cast Nat.lt_log2_self

/-- The logarithms of a fraction leave two exponents for its leading bit. -/
theorem log2_div_bounds {num den : ℕ} (hnum : 0 < num) (hden : 0 < den) :
    (2 : ℚ) ^ ((Nat.log2 num : ℤ) - Nat.log2 den - 1) ≤ num / den ∧
      (num : ℚ) / den < 2 ^ ((Nat.log2 num : ℤ) - Nat.log2 den + 1) := by
  obtain ⟨hnum_low, hnum_high⟩ := log2_bounds hnum
  obtain ⟨hden_low, hden_high⟩ := log2_bounds hden
  have hpos : (0 : ℚ) < den := by exact_mod_cast hden
  rw [le_div_iff₀ hpos, div_lt_iff₀ hpos]
  generalize (Nat.log2 num : ℤ) = a at *
  generalize (Nat.log2 den : ℤ) = b at *
  constructor
  · calc (2 : ℚ) ^ (a - b - 1) * den ≤ 2 ^ (a - b - 1) * 2 ^ (b + 1) :=
          mul_le_mul_of_nonneg_left hden_high.le (zpow_pos Nat.ofNat_pos _).le
      _ = 2 ^ a := by rw [← zpow_add₀ two_ne_zero, sub_sub, sub_add_cancel]
      _ ≤ num := hnum_low
  · calc (num : ℚ) < 2 ^ (a + 1) := hnum_high
      _ = 2 ^ (a - b + 1) * 2 ^ b := by rw [← zpow_add₀ two_ne_zero, add_right_comm, sub_add_cancel]
      _ ≤ 2 ^ (a - b + 1) * den := mul_le_mul_of_nonneg_left hden_low (zpow_pos Nat.ofNat_pos _).le

theorem floorLog2_spec {num den : ℕ} (hnum : 0 < num) (hden : 0 < den) :
    (2 : ℚ) ^ floorLog2 num den ≤ num / den ∧ (num : ℚ) / den < 2 ^ (floorLog2 num den + 1) := by
  obtain ⟨hlow, hhigh⟩ := log2_div_bounds hnum hden
  have hcut := @scale_lt_iff num den hden (Nat.log2 num - Nat.log2 den)
  unfold floorLog2
  dsimp only
  split
  · rename_i hlt
    rw [sub_add_cancel]
    exact ⟨hlow, hcut.mp hlt⟩
  · rename_i hge
    exact ⟨not_lt.mp fun h => hge (hcut.mpr h), hhigh⟩

/-- A quotient is rounded to an even number from half a unit below it on. -/
theorem le_roundQuotient_iff {num den m : ℕ} (heven : m % 2 = 0) (hden : 0 < den) :
    m ≤ roundQuotient num den ↔ 2 * (m * den) ≤ 2 * num + den := by
  have hsplit := Nat.div_add_mod' num den
  have hrest := Nat.mod_lt num hden
  unfold roundQuotient
  dsimp only
  generalize num / den = q at hsplit
  generalize num % den = r at hsplit hrest
  rcases Nat.lt_trichotomy m (q + 1) with hlt | heq | hgt
  · have hle : m * den ≤ q * den := Nat.mul_le_mul_right den (Nat.lt_succ_iff.mp hlt)
    split_ifs <;> omega
  · have hnext : m * den = q * den + den := by rw [heq, Nat.succ_mul]
    split_ifs <;> omega
  · have hle : (q + 2) * den ≤ m * den := Nat.mul_le_mul_right den hgt
    rw [Nat.add_mul] at hle
    split_ifs <;> omega

theorem roundQuotient_le {num den m : ℕ} (h : num < m * den) : roundQuotient num den ≤ m := by
  have hquot : num / den < m := Nat.div_lt_of_lt_mul (by rwa [mul_comm])
  unfold roundQuotient
  dsimp only
  split_ifs <;> omega

/-! ### The range of binary numbers -/

/-- The numbers of the format. -/
def IsDouble : Binary64 → Prop
  | .finite _ m e => m < 2 ^ 53 ∧ minExponent ≤ e ∧ e ≤ maxExponent
  | _ => True

/-- The least magnitude that is rounded to infinity. -/
def overflowBound : ℚ := (2 ^ 54 - 1) * 2 ^ (970 : ℤ)

theorem pack_spec (negative : Bool) {m : ℕ} {e : ℤ} (hm : m ≤ 2 ^ 53) (he : minExponent ≤ e) :
    (pack negative m e).IsDouble ∧ ((pack negative m e).isFinite = true ↔
      (m < 2 ^ 53 ∧ e ≤ maxExponent) ∨ e < maxExponent) := by
  have hlast : ∀ {n : ℕ} {f : ℤ}, n < 2 ^ 53 → minExponent ≤ f →
      (if maxExponent < f then infinity negative else finite negative n f).IsDouble ∧
        ((if maxExponent < f then infinity negative else finite negative n f).isFinite = true ↔
          f ≤ maxExponent) := by
    intro n f hn hf
    split_ifs with hover
    · exact ⟨trivial, iff_of_false (by simp [isFinite]) (not_le.mpr hover)⟩
    · exact ⟨⟨hn, hf, not_lt.mp hover⟩, iff_of_true rfl (not_lt.mp hover)⟩
  unfold pack
  rw [Nat.pow_eq, Nat.pow_eq]
  by_cases hcarry : m = 2 ^ 53
  · rw [if_pos hcarry]
    obtain ⟨hdouble, hfinite⟩ := hlast (show 2 ^ 52 < 2 ^ 53 by norm_num) (f := e + 1) (by omega)
    exact ⟨hdouble, hfinite.trans (by omega)⟩
  · rw [if_neg hcarry]
    obtain ⟨hdouble, hfinite⟩ := hlast (lt_of_le_of_ne hm hcarry) he
    exact ⟨hdouble, hfinite.trans (by omega)⟩

/-- A positive fraction with its significand and exponent, before the significand is packed. -/
theorem ofRatio_eq (negative : Bool) {num den : ℕ} (hnum : 0 < num) (hden : 0 < den) :
    ∃ n d : ℕ, ∃ e : ℤ, 0 < d ∧ e = max (floorLog2 num den - 52) minExponent ∧
      (n : ℚ) / d = num / den * 2 ^ (-e) ∧
      ofRatio negative num den = pack negative (roundQuotient n d) e := by
  refine ⟨_, _, _, scale_den_pos hden num _, rfl, scale_div num den _, ?_⟩
  unfold ofRatio
  rw [if_neg hnum.ne']

theorem two_zpow_le_overflowBound : (2 : ℚ) ^ (1023 : ℤ) ≤ overflowBound := by
  have hpow : (2 : ℚ) ^ (1023 : ℤ) = 2 ^ (53 : ℤ) * 2 ^ (970 : ℤ) :=
    zpow_add₀ two_ne_zero 53 970
  rw [hpow, overflowBound]
  exact mul_le_mul_of_nonneg_right (by norm_num) (by positivity)

theorem overflowBound_le_two_zpow : overflowBound ≤ (2 : ℚ) ^ (1024 : ℤ) := by
  have hpow : (2 : ℚ) ^ (1024 : ℤ) = 2 ^ (54 : ℤ) * 2 ^ (970 : ℤ) :=
    zpow_add₀ two_ne_zero 54 970
  rw [hpow, overflowBound]
  exact mul_le_mul_of_nonneg_right (by norm_num) (by positivity)

theorem overflowBound_pos : 0 < overflowBound :=
  (zpow_pos Nat.ofNat_pos 1023).trans_le two_zpow_le_overflowBound

/-- At the greatest exponent the significand is carried from the middle on. -/
theorem lt_overflowBound_iff {n d : ℕ} {q : ℚ} (hd : 0 < d)
    (hscaled : (n : ℚ) / d = q * 2 ^ (-maxExponent)) :
    roundQuotient n d < 2 ^ 53 ↔ q < overflowBound := by
  have hd' : (0 : ℚ) < d := by exact_mod_cast hd
  have hq : q = n / d * 2 ^ (971 : ℤ) := by
    rw [hscaled, mul_assoc, ← zpow_add₀ two_ne_zero]
    simp [maxExponent]
  have hbound : overflowBound = (2 ^ 54 - 1) / 2 * 2 ^ (971 : ℤ) := by
    have hpow : (2 : ℚ) ^ (971 : ℤ) = 2 * 2 ^ (970 : ℤ) := zpow_add₀ two_ne_zero 1 970
    rw [hpow, overflowBound]
    generalize (2 : ℚ) ^ (970 : ℤ) = u
    ring
  rw [hq, hbound, mul_lt_mul_iff_left₀ (zpow_pos Nat.ofNat_pos 971), div_lt_iff₀ hd', ← not_le,
    le_roundQuotient_iff (by norm_num) hd, not_le]
  have hcast : (2 * n + d < 2 * (2 ^ 53 * d) : Prop) ↔
      (2 * n + d : ℚ) < 2 * (2 ^ 53 * d) := by exact_mod_cast Iff.rfl
  rw [hcast]
  constructor
  · intro h
    linarith
  · intro h
    linarith

theorem ofRatio_spec (negative : Bool) (num : ℕ) {den : ℕ} (hden : 0 < den) :
    (ofRatio negative num den).IsDouble ∧
      ((ofRatio negative num den).isFinite = true ↔ (num : ℚ) / den < overflowBound) := by
  rcases Nat.eq_zero_or_pos num with rfl | hnum
  · refine ⟨⟨by norm_num, le_rfl, by decide⟩, ?_⟩
    simp [ofRatio, zero, isFinite, overflowBound_pos]
  · obtain ⟨hlow, hhigh⟩ := floorLog2_spec hnum hden
    obtain ⟨n, d, e, hd, he, hscaled, heq⟩ := ofRatio_eq negative hnum hden
    have hd' : (0 : ℚ) < d := by exact_mod_cast hd
    have hm : roundQuotient n d ≤ 2 ^ 53 := by
      apply roundQuotient_le
      have hlt : (n : ℚ) / d < 2 ^ (53 : ℤ) := by
        rw [hscaled]
        calc (num : ℚ) / den * 2 ^ (-e) < 2 ^ (floorLog2 num den + 1) * 2 ^ (-e) :=
              mul_lt_mul_of_pos_right hhigh (zpow_pos Nat.ofNat_pos _)
          _ = 2 ^ (floorLog2 num den + 1 + -e) := (zpow_add₀ two_ne_zero _ _).symm
          _ ≤ 2 ^ (53 : ℤ) := zpow_le_zpow_right₀ Nat.one_le_ofNat (by omega)
      rw [div_lt_iff₀ hd'] at hlt
      exact_mod_cast hlt
    obtain ⟨hdouble, hfinite⟩ := pack_spec negative hm (he ▸ le_max_right _ _)
    rw [heq]
    refine ⟨hdouble, hfinite.trans ?_⟩
    -- Only numbers with the greatest exponent are near the bound.
    have hmax : maxExponent = 971 := rfl
    have hmin : minExponent = -1074 := rfl
    rcases lt_trichotomy (floorLog2 num den) 1023 with hlt | hk | hgt
    · refine iff_of_true (.inr (by omega)) ?_
      exact hhigh.trans_le
        ((zpow_le_zpow_right₀ Nat.one_le_ofNat (by omega)).trans two_zpow_le_overflowBound)
    · have heq : e = maxExponent := by omega
      rw [heq] at hscaled
      rw [← lt_overflowBound_iff hd hscaled, heq]
      simp
    · refine iff_of_false (by omega) (not_lt.mpr ?_)
      exact overflowBound_le_two_zpow.trans
        ((zpow_le_zpow_right₀ Nat.one_le_ofNat (by omega)).trans hlow)

theorem overflowBound_le_ten_zpow : overflowBound ≤ (10 : ℚ) ^ (310 : ℤ) := by
  have hnat : 2 ^ 1024 ≤ 10 ^ 310 := by decide +kernel
  apply overflowBound_le_two_zpow.trans
  exact_mod_cast hnat

theorem one_lt_overflowBound : 1 < overflowBound := by
  apply lt_of_lt_of_le _ two_zpow_le_overflowBound
  exact one_lt_zpow₀ (by norm_num) (by norm_num)

theorem ten_zpow_ratio (c : ℕ) (e : ℤ) :
    ((c * Nat.pow 10 e.toNat : ℕ) : ℚ) / (Nat.pow 10 (-e).toNat : ℕ) = c * 10 ^ e := by
  obtain ⟨k, rfl | rfl⟩ := Int.eq_nat_or_neg e
  · simp [Nat.pow_eq]
  · simp [Nat.pow_eq, div_eq_mul_inv]

/-- A decimal is rounded to a finite number exactly below the bound. -/
theorem ofDecimal_spec (negative : Bool) (c : ℕ) (e : ℤ) :
    (ofDecimal negative c e).IsDouble ∧
      ((ofDecimal negative c e).isFinite = true ↔ (c : ℚ) * 10 ^ e < overflowBound) := by
  have hzero : (zero negative).IsDouble := ⟨by norm_num, le_rfl, by decide⟩
  have hmagnitude : ((Nat.toDigits 10 c).length : ℤ) + e = Decimal.adjusted c e + 1 := by
    unfold Decimal.adjusted Numeral.width
    omega
  unfold ofDecimal
  rw [hmagnitude]
  dsimp only
  split_ifs with hc hgreat hsmall
  · refine ⟨hzero, iff_of_true rfl ?_⟩
    simp [hc, overflowBound_pos]
  · refine ⟨trivial, iff_of_false (by simp [isFinite]) (not_lt.mpr ?_)⟩
    apply overflowBound_le_ten_zpow.trans
    apply le_trans _ (Decimal.pow_adjusted_le hc e)
    exact zpow_le_zpow_right₀ Nat.one_le_ofNat (by omega)
  · refine ⟨hzero, iff_of_true rfl ?_⟩
    apply (Decimal.lt_pow_adjusted c e).trans_le
    apply le_trans _ one_lt_overflowBound.le
    exact zpow_le_one_of_nonpos₀ (by norm_num) (by omega)
  · have hden : 0 < Nat.pow 10 (-e).toNat := Nat.pow_pos (by decide)
    have hratio := ofRatio_spec negative (c * Nat.pow 10 e.toNat) hden
    rwa [ten_zpow_ratio] at hratio

/-- There is room for another unit above the greatest number. -/
theorem add_one_lt_overflowBound {m : ℕ} {e : ℤ} (hm : m < 2 ^ 53) (he : e ≤ maxExponent) :
    (m : ℚ) * 2 ^ e + 1 < overflowBound := by
  have hpow : (2 : ℚ) ^ (971 : ℤ) = 2 * 2 ^ (970 : ℤ) := zpow_add₀ two_ne_zero 1 970
  have hle : (2 : ℚ) ^ e ≤ 2 ^ (971 : ℤ) := zpow_le_zpow_right₀ Nat.one_le_ofNat he
  have hone : (1 : ℚ) < 2 ^ (970 : ℤ) := one_lt_zpow₀ (by norm_num) (by norm_num)
  have hcast : (m : ℚ) + 1 ≤ 2 ^ 53 := by exact_mod_cast hm
  rw [hpow] at hle
  unfold overflowBound
  generalize (2 : ℚ) ^ (970 : ℤ) = u at hle hone ⊢
  have hmul : (m : ℚ) * 2 ^ e ≤ m * (2 * u) := mul_le_mul_of_nonneg_left hle m.cast_nonneg
  have hgreat : (m : ℚ) * (2 * u) ≤ (2 ^ 53 - 1) * (2 * u) :=
    mul_le_mul_of_nonneg_right (by linarith) (by linarith)
  linarith

/-- A number moved by one at most is finite exactly if it was. -/
theorem isFinite_addInt {x : Binary64} {k : ℤ} (hx : x.IsDouble) (hk : |k| ≤ 1) :
    (x.addInt k).isFinite = x.isFinite := by
  cases x with
  | nan => rfl
  | infinity negative => rfl
  | finite negative m e =>
      obtain ⟨hm, -, he⟩ := hx
      have hden := scale_den_pos Nat.one_pos m e
      have hvalue := scale_div m 1 e
      rw [Nat.cast_one, div_one] at hvalue
      unfold addInt ratio
      dsimp only
      apply (ofRatio_spec _ _ hden).2.mpr
      refine lt_of_le_of_lt ?_ (add_one_lt_overflowBound hm he)
      rw [← hvalue]
      generalize scale m 1 e = r at hden ⊢
      have hden' : (0 : ℚ) < r.2 := by exact_mod_cast hden
      have hsum : ((if negative then -(r.1 : ℤ) else r.1) + k * r.2).natAbs ≤ r.1 + r.2 := by
        obtain ⟨hlow, hhigh⟩ := abs_le.mp hk
        obtain rfl | rfl | rfl : k = -1 ∨ k = 0 ∨ k = 1 := by omega
        all_goals split <;> omega
      rw [div_le_iff₀ hden', add_mul, div_mul_cancel₀ _ hden'.ne', one_mul]
      exact_mod_cast hsum

/-! ### Texts -/

section Text

open Numeral

theorem isFigure_of_mem_replicate {k : ℕ} : ∀ c ∈ List.replicate k '0', isFigure c = true := by
  intro c hc
  rw [List.eq_of_mem_replicate hc]
  decide

theorem isFigure_of_mem_significant (d : Decimal10) :
    ∀ c ∈ (significant d).1, isFigure c = true := by
  intro c hc
  apply isFigure_of_mem_digitsOf (n := d.digits)
  apply List.mem_reverse.mp
  exact (List.dropWhile_sublist _).subset (List.mem_reverse.mp hc)

variable {digits : List Char}

theorem isFigure_of_mem_positionalText (hdigits : ∀ c ∈ digits, isFigure c = true) (point : ℤ) :
    ∀ c ∈ positionalText digits point, isFigure c = true := by
  have hpoint : isFigure '.' = true := by decide
  have hzero : isFigure '0' = true := by decide
  unfold positionalText
  dsimp only
  split_ifs
  · simp only [List.cons_append, List.forall_mem_cons, List.forall_mem_append]
    exact ⟨hzero, hpoint, isFigure_of_mem_replicate, hdigits⟩
  · simp only [List.forall_mem_cons, List.forall_mem_append]
    exact ⟨⟨hdigits, isFigure_of_mem_replicate⟩, hpoint, hzero, List.forall_mem_nil _⟩
  · simp only [List.forall_mem_cons, List.forall_mem_append]
    exact ⟨fun c hc => hdigits c (List.mem_of_mem_take hc), hpoint,
      fun c hc => hdigits c (List.mem_of_mem_drop hc)⟩

theorem isFigure_of_mem_exponentText (hdigits : ∀ c ∈ digits, isFigure c = true) (point : ℤ) :
    ∀ c ∈ exponentText digits point, isFigure c = true := by
  have hpower : ∀ n, ∀ c ∈ Nat.toDigits 10 n, isFigure c = true :=
    fun n c hc => isFigure_of_mem_digitsOf hc
  unfold exponentText
  dsimp only
  rw [List.forall_mem_append, List.forall_mem_cons, List.forall_mem_cons]
  refine ⟨?_, by decide, by split <;> decide, ?_⟩
  · split
    · exact List.forall_mem_nil _
    · exact hdigits
    · rw [List.forall_mem_cons] at hdigits
      simp only [List.forall_mem_cons]
      exact ⟨hdigits.1, by decide, hdigits.2⟩
  · split
    · exact List.forall_mem_cons.mpr ⟨by decide, hpower _⟩
    · exact hpower _

theorem isFigure_of_mem_text {x : Binary64} (hx : x.isFinite = true) :
    ∀ c ∈ x.text.toList, isFigure c = true := by
  cases x with
  | nan => cases hx
  | infinity negative => cases hx
  | finite negative m e =>
      have hmagnitude : ∀ c ∈ magnitudeText m e, isFigure c = true := by
        unfold magnitudeText
        split_ifs
        · exact List.all_eq_true.mp rfl
        · dsimp only
          split_ifs
          · exact isFigure_of_mem_positionalText (isFigure_of_mem_significant _) _
          · exact isFigure_of_mem_exponentText (isFigure_of_mem_significant _) _
      rw [text, String.toList_ofList]
      cases negative with
      | false => exact hmagnitude
      | true => exact List.forall_mem_cons.mpr ⟨by decide, hmagnitude⟩

theorem isNonFinite_text_iff (x : Binary64) :
    Decimal.IsNonFinite x.text ↔ x.isFinite = false := by
  cases x with
  | nan => exact iff_of_true ⟨.nan false false 0, by decide +kernel, rfl⟩ rfl
  | infinity negative =>
      refine iff_of_true ⟨.infinity negative, ?_, rfl⟩ rfl
      cases negative <;> decide +kernel
  | finite negative m e =>
      have hfigures := Decimal.not_isNonFinite_of_isFigure
        (isFigure_of_mem_text (x := .finite negative m e) rfl)
      exact iff_of_false hfigures (by simp [isFinite])

end Text

end CriteriaSearch.Binary64
