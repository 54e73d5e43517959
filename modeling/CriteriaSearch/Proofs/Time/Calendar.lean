import CriteriaSearch.Time.Calendar
import Mathlib.Algebra.Group.Nat.Defs

/-!
# Days and dates

Every day belongs to one year and one month, and its date counts back to it.
-/

namespace CriteriaSearch.Calendar

/-! ### Years -/

def daysInYear (y : Nat) : Nat := if isLeap y then 366 else 365

theorem isLeap_iff (y : Nat) : isLeap y = true ↔ 4 ∣ y ∧ (¬ 100 ∣ y ∨ 400 ∣ y) := by
  simp [isLeap, Nat.dvd_iff_mod_eq_zero]

theorem daysBeforeYear_succ {y : Nat} (hy : 1 ≤ y) :
    daysBeforeYear (y + 1) = daysBeforeYear y + daysInYear y := by
  obtain ⟨n, rfl⟩ := Nat.exists_eq_add_of_le' hy
  have hfour : (n + 1) / 4 = n / 4 + if 4 ∣ n + 1 then 1 else 0 := Nat.succ_div
  have hhundred : (n + 1) / 100 = n / 100 + if 100 ∣ n + 1 then 1 else 0 := Nat.succ_div
  have hcycle : (n + 1) / 400 = n / 400 + if 400 ∣ n + 1 then 1 else 0 := Nat.succ_div
  have hle : n / 100 ≤ n / 4 := Nat.div_le_div_left (by decide) (by decide)
  have hhundred_four : 100 ∣ n + 1 → 4 ∣ n + 1 := Nat.dvd_trans (by decide)
  have hcycle_hundred : 400 ∣ n + 1 → 100 ∣ n + 1 := Nat.dvd_trans (by decide)
  simp only [daysBeforeYear, daysInYear, isLeap_iff, Nat.add_sub_cancel, hfour, hhundred, hcycle]
  generalize n / 4 = a, n / 100 = b, n / 400 = c at hle
  by_cases h : 4 ∣ n + 1
  · by_cases h' : 100 ∣ n + 1
    · by_cases h'' : 400 ∣ n + 1
      · simp only [h, h', h'', if_true, true_and, not_true, false_or]
        omega
      · simp only [h, h', h'', if_true, if_false, true_and, not_true, false_or]
        omega
    · simp only [h, h', mt hcycle_hundred h', if_true, if_false, true_and, not_false_eq_true,
        true_or]
      omega
  · simp only [h, mt hhundred_four h, mt (hhundred_four ∘ hcycle_hundred) h, if_false, false_and]
    omega

theorem yearOf_spec (n : Nat) : 1 ≤ Date.yearOf n ∧ daysBeforeYear (Date.yearOf n) ≤ n ∧
    n < daysBeforeYear (Date.yearOf n + 1) := by
  unfold Date.yearOf daysBeforeYear
  dsimp only
  split
  · omega
  · split <;> omega

theorem daysBeforeYear_mono {y z : Nat} (hy : 1 ≤ y) (h : y ≤ z) :
    daysBeforeYear y ≤ daysBeforeYear z := by
  obtain ⟨k, rfl⟩ := Nat.exists_eq_add_of_le h
  clear h
  induction k with
  | zero => exact Nat.le_refl _
  | succ k ih =>
      rw [← Nat.add_assoc, daysBeforeYear_succ (Nat.le_trans hy (Nat.le_add_right y k))]
      exact Nat.le_trans ih (Nat.le_add_right _ _)

theorem yearOf_le_maxYear {n : Nat} (hn : n < dayCount) : Date.yearOf n ≤ maxYear := by
  obtain ⟨-, hbegun, -⟩ := yearOf_spec n
  refine Nat.le_of_lt_succ (Nat.lt_of_not_le fun hle => ?_)
  have hlate : dayCount ≤ daysBeforeYear (Date.yearOf n) := daysBeforeYear_mono (by decide) hle
  omega

/-! ### Months -/

theorem daysBeforeMonth_succ {m : Nat} (y : Nat) (hm : 1 ≤ m) :
    daysBeforeMonth y (m + 1) = daysBeforeMonth y m + daysInMonth y m := by
  rw [daysBeforeMonth, if_neg (Nat.ne_of_gt hm)]

theorem daysBeforeMonth_end (y : Nat) : daysBeforeMonth y 13 = daysInYear y := by
  unfold daysInYear
  cases h : isLeap y <;> simp [daysBeforeMonth, daysInMonth, h]

/-- Looking month by month finds the one that holds a day. -/
theorem monthDay_spec {y m n fuel : Nat} (hm : 1 ≤ m)
    (hn : daysBeforeMonth y m + n < daysBeforeMonth y (m + fuel)) :
    let found := Date.monthDay y m n fuel
    m ≤ found.1 ∧ found.1 < m + fuel ∧ 1 ≤ found.2 ∧ found.2 ≤ daysInMonth y found.1 ∧
      daysBeforeMonth y found.1 + (found.2 - 1) = daysBeforeMonth y m + n := by
  induction fuel generalizing m n with
  | zero => exact absurd hn (Nat.not_lt.mpr (Nat.le_add_right _ _))
  | succ fuel ih =>
      rw [Date.monthDay]
      split
      next hlt =>
        exact ⟨Nat.le_refl m, Nat.lt_add_of_pos_right (Nat.succ_pos fuel), Nat.le_add_left 1 n, hlt,
          rfl⟩
      next hle =>
        have hstep := daysBeforeMonth_succ y hm
        have hsum : daysBeforeMonth y (m + 1) + (n - daysInMonth y m) =
            daysBeforeMonth y m + n := by
          omega
        have hfuel : m + 1 + fuel = m + (fuel + 1) := by omega
        obtain ⟨hlow, hhigh, hrest⟩ := ih (Nat.le_add_left 1 m) (by rwa [hsum, hfuel])
        rw [hsum] at hrest
        exact ⟨by omega, by omega, hrest⟩

/-! ### Dates -/

namespace Date

theorem lt_of_isValid {d : Date} (hd : d.isValid = true) :
    d.year < 10 ^ 4 ∧ d.month < 10 ^ 2 ∧ d.day < 10 ^ 2 := by
  have hdays : daysInMonth d.year d.month ≤ 31 := by
    unfold daysInMonth
    split
    · split <;> decide
    · split <;> decide
  simp only [isValid, Bool.and_eq_true, decide_eq_true_eq] at hd
  obtain ⟨⟨⟨⟨⟨-, hyear⟩, -⟩, hmonth⟩, -⟩, hday⟩ := hd
  have hlast : maxYear < 10 ^ 4 := by decide
  have hdecember : 12 < 10 ^ 2 := by decide
  have hend : 31 < 10 ^ 2 := by decide
  exact ⟨Nat.lt_of_le_of_lt hyear hlast, Nat.lt_of_le_of_lt hmonth hdecember,
    Nat.lt_of_le_of_lt (Nat.le_trans hday hdays) hend⟩

/-- A day has a date of the calendar, which counts back to it. -/
theorem toDays_ofDays {n : Nat} (hn : n < dayCount) :
    (ofDays n).isValid = true ∧ (ofDays n).toDays = n := by
  obtain ⟨hyear, hbegun, hends⟩ := yearOf_spec n
  have hlast := yearOf_le_maxYear hn
  rw [daysBeforeYear_succ hyear] at hends
  have hzero : daysBeforeMonth (yearOf n) 1 = 0 := rfl
  have hyearly : daysBeforeMonth (yearOf n) 1 + (n - daysBeforeYear (yearOf n)) <
      daysBeforeMonth (yearOf n) (1 + 12) := by
    rw [daysBeforeMonth_end, hzero]
    omega
  obtain ⟨hlow, hhigh, hfirst, hday, hcount⟩ := monthDay_spec (Nat.le_refl 1) hyearly
  have hdate : ofDays n = ⟨yearOf n,
      (monthDay (yearOf n) 1 (n - daysBeforeYear (yearOf n)) 12).1,
      (monthDay (yearOf n) 1 (n - daysBeforeYear (yearOf n)) 12).2⟩ := rfl
  rw [hdate]
  generalize monthDay (yearOf n) 1 (n - daysBeforeYear (yearOf n)) 12 = found at *
  refine ⟨?_, ?_⟩
  · simp only [isValid, Bool.and_eq_true, decide_eq_true_eq]
    omega
  · simp only [toDays]
    omega

end Date

end CriteriaSearch.Calendar
