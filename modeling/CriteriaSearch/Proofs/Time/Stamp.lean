import CriteriaSearch.Proofs.Number.Numeral
import CriteriaSearch.Proofs.Time.Calendar
import CriteriaSearch.Time.DateTime
import Mathlib.Data.List.Forall2

/-!
# Stamps

The stamp of a time is made of the fields of its millisecond, each with all its digits, and a reader
of stamps finds the millisecond again. Only the year is not padded, so that a stamp has its form
from year 1000 on.
-/

namespace CriteriaSearch

open Text Calendar Numeral

/-! ### Numbers of fixed width -/

theorem Text.go_digits {ds : List Char} (hds : ∀ c ∈ ds, c.isDigit = true) (acc : Nat)
    (rest : List Char) :
    takeDigits?.go acc ds.length (ds ++ rest) = some (Nat.ofDigitChars 10 ds acc, rest) := by
  induction ds generalizing acc with
  | nil => rfl
  | cons c ds ih =>
      obtain ⟨hc, hrest⟩ := List.forall_mem_cons.mp hds
      rw [List.length_cons, List.cons_append, takeDigits?.go, asciiDigit?, if_pos hc]
      exact ih hrest _

theorem Text.takeDigits?_digits {ds : List Char} (hds : ∀ c ∈ ds, c.isDigit = true)
    (rest : List Char) :
    takeDigits? ds.length (ds ++ rest) = some (Nat.ofDigitChars 10 ds 0, rest) :=
  go_digits hds 0 rest

theorem Text.takeDigits?_stop {ds : List Char} {n : Nat} (hn : ds.length < n) {c : Char}
    (hc : c.isDigit = false) (acc : Nat) (rest : List Char) :
    takeDigits?.go acc n (ds ++ c :: rest) = none := by
  induction n generalizing ds acc with
  | zero => cases hn
  | succ n ih =>
      cases ds with
      | nil => rw [List.nil_append, takeDigits?.go, asciiDigit?, hc]; rfl
      | cons d ds =>
          rw [List.cons_append, takeDigits?.go]
          cases asciiDigit? d with
          | none => rfl
          | some k => exact ih (Nat.lt_of_succ_lt_succ hn) _

namespace DateTime

abbrev paddedChars (width n : Nat) : List Char := (padded width n).toList

theorem paddedChars_eq (width n : Nat) : paddedChars width n =
    List.replicate (width - (digitsOf n).length) '0' ++ digitsOf n := String.toList_ofList

variable {width n : Nat}

theorem paddedChars_ne_nil (width n : Nat) : paddedChars width n ≠ [] := by
  rw [paddedChars_eq]
  exact List.append_ne_nil_of_right_ne_nil _ (digitsOf_ne_nil n)

theorem length_paddedChars (hwidth : 0 < width) (hn : n < 10 ^ width) :
    (paddedChars width n).length = width := by
  have hle : (digitsOf n).length ≤ width :=
    (Nat.length_toDigits_le_iff (by decide) hwidth).mpr hn
  rw [paddedChars_eq, List.length_append, List.length_replicate]
  omega

theorem isDigit_of_mem_paddedChars {c : Char} (hc : c ∈ paddedChars width n) :
    c.isDigit = true := by
  rw [paddedChars_eq] at hc
  rcases List.mem_append.mp hc with hzero | hdigit
  · rw [(List.mem_replicate.mp hzero).2]
    decide
  · exact isDigit_of_mem_digitsOf hdigit

theorem ofDigitChars_paddedChars (width n : Nat) :
    Nat.ofDigitChars 10 (paddedChars width n) 0 = n := by
  rw [paddedChars_eq, Nat.ofDigitChars_append, Nat.ofDigitChars_replicate_zero, Nat.mul_zero]
  exact ofDigitChars_digitsOf n

theorem takeDigits?_padded (hwidth : 0 < width) (hn : n < 10 ^ width) (rest : List Char) :
    takeDigits? width (paddedChars width n ++ rest) = some (n, rest) := by
  have hdigits : ∀ c ∈ paddedChars width n, c.isDigit = true :=
    fun c hc => isDigit_of_mem_paddedChars hc
  have hread := takeDigits?_digits hdigits rest
  rwa [length_paddedChars hwidth hn, ofDigitChars_paddedChars] at hread

end DateTime

/-! ### Fields -/

/-- The fields of a millisecond of the calendar. -/
structure Stamp where
  date : Date
  hour : Nat
  minute : Nat
  second : Nat
  milli : Nat
  valid : date.isValid = true
  hour_lt : hour < 24
  minute_lt : minute < 60
  second_lt : second < 60
  milli_lt : milli < 1000

namespace Stamp

open DateTime

variable (s : Stamp)

/-- Milliseconds since the start of year 1. -/
def millis : Nat :=
  s.date.toDays * 86400000 + (((s.hour * 60 + s.minute) * 60 + s.second) * 1000 + s.milli)

def clockChars : List Char :=
  paddedChars 2 s.hour ++ ':' :: (paddedChars 2 s.minute ++ ':' :: (paddedChars 2 s.second ++
    '.' :: paddedChars 3 s.milli))

def dayChars : List Char :=
  '-' :: (paddedChars 2 s.date.month ++ '-' :: paddedChars 2 s.date.day)

/-- What stands behind the year, up to the zone. -/
def restChars : List Char := s.dayChars ++ 'T' :: s.clockChars

def chars : List Char := paddedChars 4 s.date.year ++ (s.restChars ++ ['Z'])

theorem clock_lt : s.hour < 10 ^ 2 ∧ s.minute < 10 ^ 2 ∧ s.second < 10 ^ 2 :=
  ⟨Nat.lt_trans s.hour_lt (by decide), Nat.lt_trans s.minute_lt (by decide),
    Nat.lt_trans s.second_lt (by decide)⟩

/-! ### Reading -/

def date? (cs : List Char) : Option (Date × List Char) := do
  let (year, cs) ← takeDigits? 4 cs
  let (month, cs) ← takeDigits? 2 (← afterPrefix? ['-'] cs)
  let (day, cs) ← takeDigits? 2 (← afterPrefix? ['-'] cs)
  return (⟨year, month, day⟩, cs)

def clock? (cs : List Char) : Option ((Nat × Nat × Nat × Nat) × List Char) := do
  let (hour, cs) ← takeDigits? 2 cs
  let (minute, cs) ← takeDigits? 2 (← afterPrefix? [':'] cs)
  let (second, cs) ← takeDigits? 2 (← afterPrefix? [':'] cs)
  let (milli, cs) ← takeDigits? 3 (← afterPrefix? ['.'] cs)
  return ((hour, minute, second, milli), cs)

/-- The fields of a text in the form of a stamp. -/
def read? (cs : List Char) : Option Stamp := do
  let (date, cs) ← date? cs
  let ((hour, minute, second, milli), cs) ← clock? (← afterPrefix? ['T'] cs)
  if cs ≠ ['Z'] then none
  if h : date.isValid = true ∧ hour < 24 ∧ minute < 60 ∧ second < 60 ∧ milli < 1000 then
    some ⟨date, hour, minute, second, milli, h.1, h.2.1, h.2.2.1, h.2.2.2.1, h.2.2.2.2⟩
  else none

theorem date?_chars (rest : List Char) :
    date? (paddedChars 4 s.date.year ++ (s.dayChars ++ rest)) = some (s.date, rest) := by
  obtain ⟨hyear, hmonth, hday⟩ := Date.lt_of_isValid s.valid
  simp only [date?, dayChars, List.cons_append, List.append_assoc,
    takeDigits?_padded (by decide : 0 < 4) hyear, takeDigits?_padded (by decide : 0 < 2) hmonth,
    takeDigits?_padded (by decide : 0 < 2) hday, afterPrefix?_single, Option.bind_eq_bind,
    Option.bind_some, Option.pure_def]

theorem clock?_chars (rest : List Char) :
    clock? (s.clockChars ++ rest) = some ((s.hour, s.minute, s.second, s.milli), rest) := by
  obtain ⟨hhour, hminute, hsecond⟩ := s.clock_lt
  simp only [clock?, clockChars, List.cons_append, List.append_assoc,
    takeDigits?_padded (by decide : 0 < 2) hhour, takeDigits?_padded (by decide : 0 < 2) hminute,
    takeDigits?_padded (by decide : 0 < 2) hsecond,
    takeDigits?_padded (by decide : 0 < 3) s.milli_lt, afterPrefix?_single, Option.bind_eq_bind,
    Option.bind_some, Option.pure_def]

theorem read?_chars : read? s.chars = some s := by
  have hfields : s.date.isValid = true ∧ s.hour < 24 ∧ s.minute < 60 ∧ s.second < 60 ∧
      s.milli < 1000 := ⟨s.valid, s.hour_lt, s.minute_lt, s.second_lt, s.milli_lt⟩
  have hchars : s.chars = paddedChars 4 s.date.year ++
      (s.dayChars ++ 'T' :: (s.clockChars ++ ['Z'])) := by
    simp [chars, restChars]
  rw [hchars, read?, date?_chars]
  simp only [Option.bind_eq_bind, Option.bind_some, afterPrefix?_single, clock?_chars]
  rw [if_neg (not_not.mpr rfl), dif_pos hfields]

/-! ### Form -/

/-- A mark of the form and a character in its place: letters stand for digits, except for those
between date and time and at the end. -/
def Fits (mark c : Char) : Prop :=
  if mark ∈ ['Y', 'M', 'D', 'H', 'S', 'm'] then c.isDigit = true else c = mark

instance (mark c : Char) : Decidable (Fits mark c) :=
  inferInstanceAs (Decidable
    (if mark ∈ ['Y', 'M', 'D', 'H', 'S', 'm'] then c.isDigit = true else c = mark))

def form : String := "YYYY-MM-DDTHH:MM:SS.mmmZ"

/-- A text in the form of a stamp. -/
def IsStamp (text : String) : Prop := List.Forall₂ Fits form.toList text.toList

instance (text : String) : Decidable (IsStamp text) :=
  inferInstanceAs (Decidable (List.Forall₂ _ _ _))

theorem fits_padded {mark : Char} (hmark : mark ∈ ['Y', 'M', 'D', 'H', 'S', 'm']) {width n : Nat}
    (hwidth : 0 < width) (hn : n < 10 ^ width) {marks cs : List Char}
    (hrest : List.Forall₂ Fits marks cs) :
    List.Forall₂ Fits (List.replicate width mark ++ marks) (paddedChars width n ++ cs) := by
  have hlength := length_paddedChars hwidth hn
  refine List.rel_append (List.forall₂_iff_get.mpr ⟨by simp [hlength], fun i hi hi' => ?_⟩) hrest
  have hdigit : ((paddedChars width n).get ⟨i, hi'⟩).isDigit = true :=
    isDigit_of_mem_paddedChars (List.get_mem _ _)
  simpa [Fits, hmark] using hdigit

theorem fits_self {mark : Char} (hmark : mark ∉ ['Y', 'M', 'D', 'H', 'S', 'm']) :
    Fits mark mark := by
  rw [Fits, if_neg hmark]

theorem chars_fit : List.Forall₂ Fits form.toList s.chars := by
  obtain ⟨hyear, hmonth, hday⟩ := Date.lt_of_isValid s.valid
  obtain ⟨hhour, hminute, hsecond⟩ := s.clock_lt
  have hform : form.toList = List.replicate 4 'Y' ++ '-' :: (List.replicate 2 'M' ++ '-' ::
      (List.replicate 2 'D' ++ 'T' :: (List.replicate 2 'H' ++ ':' :: (List.replicate 2 'M' ++
        ':' :: (List.replicate 2 'S' ++ '.' :: (List.replicate 3 'm' ++ ['Z'])))))) := by
    decide
  rw [hform]
  simp only [chars, restChars, dayChars, clockChars, List.cons_append, List.append_assoc]
  refine fits_padded (by decide) (by decide) hyear (.cons (fits_self (by decide)) ?_)
  refine fits_padded (by decide) (by decide) hmonth (.cons (fits_self (by decide)) ?_)
  refine fits_padded (by decide) (by decide) hday (.cons (fits_self (by decide)) ?_)
  refine fits_padded (by decide) (by decide) hhour (.cons (fits_self (by decide)) ?_)
  refine fits_padded (by decide) (by decide) hminute (.cons (fits_self (by decide)) ?_)
  refine fits_padded (by decide) (by decide) hsecond (.cons (fits_self (by decide)) ?_)
  exact fits_padded (by decide) (by decide) s.milli_lt (.cons (fits_self (by decide)) .nil)

/-! ### Stamps of times -/

theorem date_spec {t : DateTime} (h : t.micros < bound) :
    t.date.isValid = true ∧ t.date.toDays = t.micros / microsPerDay :=
  Date.toDays_ofDays (Nat.div_lt_of_lt_mul (Nat.mul_comm _ _ ▸ h))

theorem digits_short_iff (n : Nat) : (digitsOf n).length < 4 ↔ n < 1000 := by
  rw [Nat.lt_succ_iff]
  exact Nat.length_toDigits_le_iff (by decide) (by decide)

def ofTime (t : DateTime) (h : t.micros < bound) : Stamp where
  date := t.date
  hour := t.hour
  minute := t.minute
  second := t.second
  milli := t.micro / 1000
  valid := (date_spec h).1
  hour_lt := by
    unfold DateTime.hour microsPerDay microsPerSecond
    omega
  minute_lt := Nat.mod_lt _ (by decide)
  second_lt := Nat.mod_lt _ (by decide)
  milli_lt := by
    unfold micro microsPerSecond
    omega

theorem millis_ofTime (t : DateTime) (h : t.micros < bound) :
    (ofTime t h).millis = t.micros / 1000 := by
  simp only [millis, ofTime, (date_spec h).2, DateTime.hour, DateTime.minute, DateTime.second,
    micro, microsPerDay, microsPerSecond]
  omega

theorem stamp_toList (t : DateTime) (h : t.micros < bound) :
    t.stamp.toList = digitsOf t.date.year ++ ((ofTime t h).restChars ++ ['Z']) := by
  simp [stamp, clockText, restChars, dayChars, clockChars, ofTime, digitsOf]

theorem stamp_eq_chars {t : DateTime} (h : t.micros < bound) (hyear : 1000 ≤ t.date.year) :
    t.stamp.toList = (ofTime t h).chars := by
  have hlong : ¬ (digitsOf t.date.year).length < 4 :=
    mt (digits_short_iff _).mp (Nat.not_lt.mpr hyear)
  have hnone : 4 - (digitsOf t.date.year).length = 0 := by omega
  rw [stamp_toList t h, chars, paddedChars_eq]
  simp [ofTime, hnone]

end Stamp

end CriteriaSearch
