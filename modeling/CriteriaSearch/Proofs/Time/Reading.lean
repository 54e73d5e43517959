import CriteriaSearch.Proofs.Criteria.Clauses
import CriteriaSearch.Proofs.Text.Blank
import CriteriaSearch.Proofs.Time.Stamp
import Mathlib.Data.List.TakeWhile

/-!
# Stamps are read back

The stamp of a time of year 1000 or later is read as the same time, less what is below its
millisecond. An earlier year has fewer digits than a date takes, and its stamp is no text of a time.
-/

namespace CriteriaSearch

open Text Calendar DateTime Numeral

namespace Iso

variable {n : Nat}

/-! ### Dates -/

theorem dateLength_hyphen {year : List Char} (hyear : year.length = 4) {c : Char} (hc : c ≠ 'W')
    (rest : List Char) : dateLength (year ++ '-' :: c :: rest) = 10 := by
  rw [dateLength, ← hyear, List.drop_left]
  simp [hc]

theorem date?_hyphen {year : Nat} (hyear : year < 10 ^ 4) {c : Char} (hc : c ≠ 'W')
    (length : Nat) (rest : List Char) :
    date? length (paddedChars 4 year ++ '-' :: c :: rest) =
      calendarDate? true year (c :: rest) := by
  rw [date?, takeDigits?_padded (by decide) hyear]
  simp [hc]

theorem calendarDate?_chars {d : Date} (hd : d.isValid = true) (rest : List Char) :
    calendarDate? true d.year
      (paddedChars 2 d.month ++ '-' :: (paddedChars 2 d.day ++ rest)) = some d.toDays := by
  obtain ⟨-, hmonth, hday⟩ := Date.lt_of_isValid hd
  simp [calendarDate?, takeDigits?_padded (by decide : 0 < 2) hmonth,
    takeDigits?_padded (by decide : 0 < 2) hday, hd]

theorem dateTime?_date (s : Stamp) (mark : Char) (rest : List Char) :
    dateTime? (paddedChars 4 s.date.year ++ (s.dayChars ++ mark :: rest)) =
      (time? rest).map fun p => ⟨s.date.toDays * microsPerDay + p.1, p.2⟩ := by
  obtain ⟨hyear, hmonth, hday⟩ := Date.lt_of_isValid s.valid
  obtain ⟨c, cs, hchars⟩ := List.exists_cons_of_ne_nil (paddedChars_ne_nil 2 s.date.month)
  have hweek : c ≠ 'W' :=
    ne_of_isDigit (isDigit_of_mem_paddedChars (hchars ▸ List.mem_cons_self)) (by decide)
  have hlength := length_paddedChars (by decide) hyear
  have hfull : (paddedChars 4 s.date.year ++ s.dayChars).length = 10 := by
    simp [Stamp.dayChars, hlength, length_paddedChars (by decide : 0 < 2) hmonth,
      length_paddedChars (by decide : 0 < 2) hday]
  have hend : (paddedChars 4 s.date.year ++ (s.dayChars ++ mark :: rest)).drop 10 =
      mark :: rest := by
    rw [← List.append_assoc, ← hfull, List.drop_left]
  have hcs : paddedChars 4 s.date.year ++ (s.dayChars ++ mark :: rest) =
      paddedChars 4 s.date.year ++ '-' ::
        c :: (cs ++ '-' :: (paddedChars 2 s.date.day ++ mark :: rest)) := by
    simp [Stamp.dayChars, hchars]
  have hlong : ¬ (paddedChars 4 s.date.year ++ (s.dayChars ++ mark :: rest)).length ≤ 7 := by
    rw [← List.append_assoc, List.length_append, hfull]
    omega
  have hdate : date? 10 (paddedChars 4 s.date.year ++ (s.dayChars ++ mark :: rest)) =
      some s.date.toDays := by
    rw [hcs, date?_hyphen hyear hweek, ← List.cons_append, ← hchars,
      calendarDate?_chars s.valid]
  have hten : dateLength (paddedChars 4 s.date.year ++ (s.dayChars ++ mark :: rest)) = 10 := by
    rw [hcs, dateLength_hyphen hlength hweek]
  rw [dateTime?, if_neg (fun hlt => hlong (Nat.le_of_lt hlt))]
  simp only [if_neg (fun heq => hlong (Nat.le_of_eq heq)), hten, hdate, hend]
  cases time? rest <;> rfl

/-! ### Times of day -/

theorem fields?_colon (hn : n < 10 ^ 2) (clock : Clock) (i left : Nat) {more : List Char}
    (hmore : more ≠ []) :
    fields? clock true i (left + 1) (paddedChars 2 n ++ ':' :: more) =
      fields? (clock.put i n) true (i + 1) left more := by
  obtain ⟨c, more, rfl⟩ := List.exists_cons_of_ne_nil hmore
  rw [fields?, takeDigits?_padded (by decide) hn]
  simp

theorem fields?_point (hn : n < 10 ^ 2) (clock : Clock) (i left : Nat) {more : List Char}
    (hmore : more ≠ []) :
    fields? clock true (i + 1) (left + 1) (paddedChars 2 n ++ '.' :: more) =
      fraction? (clock.put (i + 1) n) more := by
  obtain ⟨c, more, rfl⟩ := List.exists_cons_of_ne_nil hmore
  rw [fields?, takeDigits?_padded (by decide) hn]
  simp

theorem fraction?_milli (hn : n < 10 ^ 3) (clock : Clock) :
    fraction? clock (paddedChars 3 n) = some { clock with micro := n * 1000, atEnd := true } := by
  have hread := takeDigits?_padded (by decide : 0 < 3) hn []
  rw [List.append_nil] at hread
  simp [fraction?, length_paddedChars (by decide : 0 < 3) hn, hread, isEnd]

theorem clock?_chars (s : Stamp) :
    clock? s.clockChars = some ⟨s.hour, s.minute, s.second, s.milli * 1000, true⟩ := by
  obtain ⟨hhour, hminute, hsecond⟩ := s.clock_lt
  have hfield : ∀ n rest, paddedChars 2 n ++ rest ≠ [] := fun n rest =>
    List.append_ne_nil_of_left_ne_nil (paddedChars_ne_nil 2 n) rest
  rw [clock?, Stamp.clockChars, fields?_colon hhour _ _ _ (hfield _ _),
    fields?_colon hminute _ _ _ (hfield _ _), fields?_point hsecond _ _ _ (paddedChars_ne_nil 3 _),
    fraction?_milli s.milli_lt]
  rfl

theorem mem_clockChars {s : Stamp} {c : Char} (hc : c ∈ s.clockChars) :
    c.isDigit = true ∨ c = ':' ∨ c = '.' := by
  simp only [Stamp.clockChars, List.mem_append, List.mem_cons] at hc
  rcases hc with h | h | h | h | h | h | h
  · exact .inl (isDigit_of_mem_paddedChars h)
  · exact .inr (.inl h)
  · exact .inl (isDigit_of_mem_paddedChars h)
  · exact .inr (.inl h)
  · exact .inl (isDigit_of_mem_paddedChars h)
  · exact .inr (.inr h)
  · exact .inl (isDigit_of_mem_paddedChars h)

theorem time?_chars (s : Stamp) :
    time? (s.clockChars ++ "+00:00".toList) =
      some (((s.hour * 60 + s.minute) * 60 + s.second) * microsPerSecond + s.milli * 1000,
        some 0) := by
  have hmarks : ∀ c ∈ s.clockChars, (!(c == '+' || c == '-' || c == 'Z')) = true := by
    intro c hc
    rcases mem_clockChars hc with hdigit | rfl | rfl
    · simp [ne_of_isDigit hdigit (by decide : Char.isDigit '+' = false),
        ne_of_isDigit hdigit (by decide : Char.isDigit '-' = false),
        ne_of_isDigit hdigit (by decide : Char.isDigit 'Z' = false)]
    · decide
    · decide
  have hmicro : s.milli * 1000 < microsPerSecond := by
    have hmilli := s.milli_lt
    unfold microsPerSecond
    omega
  have htime : timeOfDay? s.hour s.minute s.second (s.milli * 1000) =
      some (((s.hour * 60 + s.minute) * 60 + s.second) * microsPerSecond + s.milli * 1000) :=
    if_pos ⟨s.hour_lt, s.minute_lt, s.second_lt, hmicro⟩
  have hoffset : offset? false ['0', '0', ':', '0', '0'] = some 0 := by decide
  have hzone : "+00:00".toList = '+' :: ['0', '0', ':', '0', '0'] := by decide
  rw [time?, hzone, takeWhile_append_stop (by decide), dropWhile_append_stop (by decide),
    List.takeWhile_eq_self_iff.mpr hmarks, List.dropWhile_eq_nil_iff.mpr hmarks, clock?_chars]
  simp only [Option.bind_eq_bind, Option.bind_some, List.nil_append]
  simp [timeOfClock?, htime, hoffset]

theorem dateTime?_short {year : List Char} (hyear : year.length < 4) (rest : List Char) :
    dateTime? (year ++ '-' :: rest) = none := by
  have hdate : ∀ length, date? length (year ++ '-' :: rest) = none := by
    intro length
    rw [date?, takeDigits?, takeDigits?_stop hyear (by decide)]
    rfl
  unfold dateTime?
  split
  · rfl
  · simp only [hdate]
    rfl

end Iso

/-- The name of a month begins with a letter. -/
theorem MonthName.dateTime?_of_isDigit {c : Char} (hc : c.isDigit = true) (cs : List Char) :
    dateTime? (c :: cs) = none := by
  have hletter : ∀ name ∈ names, (name.toList.headD ' ').isDigit = false := by decide
  have hword : ∀ name ∈ names, ∀ ds, (name.toList == lower (c :: ds)) = false := by
    intro name hname ds
    refine beq_eq_false_iff_ne.mpr fun heq => ?_
    have hhead : name.toList.headD ' ' = c := by
      rw [heq, lower, List.map_cons, List.headD_cons, toLower_of_isDigit hc]
    exact ne_of_isDigit hc (hletter name hname) hhead.symm
  have hmonth : month? (c :: cs) = none := by
    match cs with
    | [] => rfl
    | [_] => rfl
    | a :: b :: cs =>
        have hnone : names.findIdx? (·.toList == lower [c, a, b]) = none :=
          List.findIdx?_eq_none_iff.mpr fun name hname => hword name hname [a, b]
        simp only [month?, hnone]
  rw [dateTime?, hmonth]
  rfl

/-! ### Stamps -/

namespace DateTime

theorem withoutZulu_zone (cs : List Char) : withoutZulu (cs ++ ['Z']) = cs ++ "+00:00".toList := by
  simp [withoutZulu]

theorem trim_zone {ds : List Char} (hne : ds ≠ []) (hds : ∀ c ∈ ds, c.isDigit = true)
    (rest : List Char) : trim (ds ++ (rest ++ ['Z'])) = ds ++ (rest ++ ['Z']) := by
  have hsolid : ∀ c ∈ ds, isBlank c = false := fun c hc =>
    isBlank_of_isDigit (isDigit_of_isDigit (hds c hc))
  refine trimBy_eq_self (head_append hne hsolid (rest ++ ['Z'])) fun c hc => ?_
  rw [← List.append_assoc, List.getLast?_concat] at hc
  cases hc
  decide

variable {t : DateTime}

theorem ofText?_stamp (h : t.micros < bound) (hyear : 1000 ≤ t.date.year) :
    ofText? t.stamp = some ⟨t.micros / 1000 * 1000, some 0⟩ := by
  obtain ⟨s, hs⟩ : ∃ s, Stamp.ofTime t h = s := ⟨_, rfl⟩
  have hmicros : s.date.toDays * microsPerDay +
      (((s.hour * 60 + s.minute) * 60 + s.second) * microsPerSecond + s.milli * 1000) =
        t.micros / 1000 * 1000 := by
    rw [← Stamp.millis_ofTime t h, hs, Stamp.millis, microsPerDay, microsPerSecond]
    omega
  have hdigits : ∀ c ∈ paddedChars 4 s.date.year, c.isDigit = true :=
    fun c hc => isDigit_of_mem_paddedChars hc
  have hzone : withoutZulu s.chars = paddedChars 4 s.date.year ++ (s.dayChars ++ 'T' ::
      (s.clockChars ++ "+00:00".toList)) := by
    rw [Stamp.chars, ← List.append_assoc, withoutZulu_zone, Stamp.restChars]
    simp
  have hread : Iso.dateTime? (withoutZulu s.chars) = some ⟨t.micros / 1000 * 1000, some 0⟩ := by
    rw [hzone, Iso.dateTime?_date, Iso.time?_chars, Option.map_some, hmicros]
  have htrim : trim s.chars = s.chars :=
    trim_zone (paddedChars_ne_nil 4 _) hdigits s.restChars
  simp only [ofText?, Stamp.stamp_eq_chars h hyear, hs, htrim, hread]

theorem ofText?_stamp_early (h : t.micros < bound) (hyear : t.date.year < 1000) :
    ofText? t.stamp = none := by
  have hshort := (Stamp.digits_short_iff _).mpr hyear
  have hdigits : ∀ c ∈ digitsOf t.date.year, c.isDigit = true := fun c hc =>
    isDigit_of_mem_digitsOf hc
  have htrim := trim_zone (digitsOf_ne_nil t.date.year) hdigits (Stamp.ofTime t h).restChars
  have hzone : withoutZulu t.stamp.toList = digitsOf t.date.year ++
      ((Stamp.ofTime t h).restChars ++ "+00:00".toList) := by
    rw [Stamp.stamp_toList t h, ← List.append_assoc, withoutZulu_zone, List.append_assoc]
  have hread : Iso.dateTime? (withoutZulu t.stamp.toList) = none := by
    rw [hzone, Stamp.restChars, Stamp.dayChars]
    exact Iso.dateTime?_short hshort _
  have hmonth : MonthName.dateTime? t.stamp.toList = none := by
    rw [Stamp.stamp_toList t h]
    cases hchars : digitsOf t.date.year with
    | nil => exact absurd hchars (digitsOf_ne_nil _)
    | cons c cs => exact MonthName.dateTime?_of_isDigit (hdigits c (hchars ▸ List.mem_cons_self)) _
  rw [← Stamp.stamp_toList t h] at htrim
  simp only [ofText?, htrim, hread, hmonth]

theorem isStamp_stamp_iff (h : t.micros < bound) :
    Stamp.IsStamp t.stamp ↔ 1000 ≤ t.date.year := by
  refine ⟨fun hform => ?_, fun hyear => ?_⟩
  · have hfull := (Stamp.ofTime t h).chars_fit.length_eq
    have hlength := hform.length_eq
    rw [Stamp.chars, List.length_append, length_paddedChars (by decide)
      (Date.lt_of_isValid (Stamp.ofTime t h).valid).1] at hfull
    rw [Stamp.stamp_toList t h, List.length_append] at hlength
    refine Nat.le_of_not_lt fun hearly => ?_
    have hshort := (Stamp.digits_short_iff _).mpr hearly
    omega
  · rw [Stamp.IsStamp, Stamp.stamp_eq_chars h hyear]
    exact Stamp.chars_fit _

/-! ### Universal time -/

def ofUniversal (micros : Int) : DateTime := ⟨micros.toNat, some 0⟩

theorem micros_ofUniversal_lt {micros : Int} (h : InCalendar micros) :
    (ofUniversal micros).micros < bound := by
  have hnat : ((ofUniversal micros).micros : Int) = micros := Int.toNat_of_nonneg h.1
  refine Int.ofNat_lt.mp ?_
  rw [hnat]
  exact h.2

theorem toUniversal?_ofUniversal {micros : Int} (h : InCalendar micros) :
    (ofUniversal micros).toUniversal? = some (ofUniversal micros) := by
  have huniversal : (ofUniversal micros).universal = micros := by
    simp [universal, ofUniversal, Int.toNat_of_nonneg h.1]
  rw [toUniversal?_eq_some (huniversal.symm ▸ h), huniversal, ofUniversal]

theorem inCalendar_whole {micros : Int} (h : InCalendar micros) :
    InCalendar (micros / 1000 * 1000) := by
  obtain ⟨hlow, hhigh⟩ := h
  have hle : micros / 1000 * 1000 ≤ micros := by omega
  exact ⟨by omega, Int.lt_of_le_of_lt hle hhigh⟩

theorem instantOf_text {s : String} {t u : DateTime} (hread : ofText? s = some t)
    (hu : t.toUniversal? = some u) : instantOf (.text s) = .ok (some u) := by
  simp only [instantOf, ofValue?, hread, hu]

/-- A time of the calendar has a stamp. It has its form, and is read as the whole milliseconds of
the time, exactly from year 1000 on; the stamp of an earlier year is no text of a time. -/
theorem stamp_fits_and_reads_iff {t : DateTime} (h : InCalendar t.universal) :
    ∃ s, t.stampUniversal = .ok s ∧
      (Stamp.IsStamp s ↔ 1000 ≤ (ofUniversal t.universal).date.year) ∧
      instantOf (.text s) = .ok (if 1000 ≤ (ofUniversal t.universal).date.year then
        some (ofUniversal (t.universal / 1000 * 1000)) else none) := by
  have hbound := micros_ofUniversal_lt h
  have hstamp : t.stampUniversal = .ok (ofUniversal t.universal).stamp := by
    rw [stampUniversal, toUniversal?_eq_some h, ofUniversal]
  refine ⟨_, hstamp, isStamp_stamp_iff hbound, ?_⟩
  by_cases hyear : 1000 ≤ (ofUniversal t.universal).date.year
  · have hwhole : InCalendar (t.universal / 1000 * 1000) := inCalendar_whole h
    have hread : ofText? (ofUniversal t.universal).stamp =
        some (ofUniversal (t.universal / 1000 * 1000)) := by
      have hmicros : t.universal.toNat / 1000 * 1000 = (t.universal / 1000 * 1000).toNat := by
        omega
      rw [ofText?_stamp hbound hyear, ofUniversal, hmicros, ofUniversal]
    rw [if_pos hyear]
    exact instantOf_text hread (toUniversal?_ofUniversal hwhole)
  · simp only [instantOf, ofValue?, ofText?_stamp_early hbound (Nat.lt_of_not_le hyear),
      if_neg hyear]

/-- A quarter past midnight on 1 March, which is still 29 February in universal time. -/
def leapNight : DateTime := ⟨63844848900123456, some 3600000000⟩

theorem leapNight_reads :
    InCalendar leapNight.universal ∧
    leapNight.stampUniversal = .ok "2024-02-29T23:15:00.123Z" ∧
    Stamp.IsStamp "2024-02-29T23:15:00.123Z" ∧
    instantOf (.text "2024-02-29T23:15:00.123Z") =
      .ok (some (ofUniversal (leapNight.universal / 1000 * 1000))) := by
  have hcalendar : InCalendar leapNight.universal := ⟨by decide +kernel, by decide +kernel⟩
  have hyear : 1000 ≤ (ofUniversal leapNight.universal).date.year := by decide +kernel
  have hstamp : leapNight.stampUniversal = .ok "2024-02-29T23:15:00.123Z" := by decide +kernel
  obtain ⟨s, hs, hform, hread⟩ := stamp_fits_and_reads_iff hcalendar
  obtain rfl := Except.ok.inj (hs.symm.trans hstamp)
  rw [if_pos hyear] at hread
  exact ⟨hcalendar, hstamp, hform.mpr hyear, hread⟩

/-- The stamp of a time of year 999 has a digit less than its form and is not read. -/
theorem year999_is_unpadded :
    (ofDate ⟨999, 1, 1⟩).stampUniversal = .ok "999-01-01T00:00:00.000Z" ∧
    ¬ Stamp.IsStamp "999-01-01T00:00:00.000Z" ∧
    instantOf (.text "999-01-01T00:00:00.000Z") = .ok none := by
  decide +kernel

end DateTime

end CriteriaSearch
