import CriteriaSearch.Number.Decimal
import CriteriaSearch.Proofs.Number.Numeral
import Mathlib.Data.List.TakeWhile

/-!
# Decimals are read back

The text of a finite decimal consists of digits with a point among them or none, and of a power of
ten or none behind them. It is read as the same coefficient and the same exponent, unless these are
too great to be written down.
-/

namespace CriteriaSearch

open Text

/-! ### Characters of numerals -/

namespace Numeral

/-- The characters of numerals in digits, unlike those of names such as `inf` and `nan`. -/
def isFigure (c : Char) : Bool := c.isDigit || ['+', '-', '.', 'e', 'E'].contains c

variable {c : Char}

theorem isFigure_of_isDigit (hc : c.isDigit = true) : isFigure c = true := by
  rw [isFigure, hc, Bool.true_or]

theorem isFigure_of_mem_digitsOf {n : Nat} (hc : c ∈ digitsOf n) : isFigure c = true :=
  isFigure_of_isDigit (isDigit_of_mem_digitsOf hc)

theorem isBlank_of_isFigure (hc : isFigure c = true) : isBlank c = false := by
  rw [isFigure, Bool.or_eq_true] at hc
  rcases hc with hdigit | hmark
  · exact isBlank_of_isDigit (isDigit_of_isDigit hdigit)
  · have hall : ['+', '-', '.', 'e', 'E'].all (!isBlank ·) = true := by decide
    simpa using List.all_eq_true.mp hall c (List.contains_iff_mem.mp hmark)

end Numeral

namespace Decimal

open Numeral

variable {c : Nat} {e : Int} {whole fraction : List Char} {power : Option Int}

/-! ### Writing -/

/-- Digits with a point among them, unless none of them is behind it. -/
def pointed (whole fraction : List Char) : List Char :=
  if fraction = [] then whole else whole ++ '.' :: fraction

/-- A power of ten behind the digits, if there is one. -/
def marked : Option Int → List Char
  | none => []
  | some power => 'E' :: (if power < 0 then '-' else '+') :: digitsOf power.natAbs

/-- Digits before and behind a point, and a power of ten, that stand for a coefficient with an
exponent. -/
structure Spells (whole fraction : List Char) (power : Option Int) (c : Nat) (e : Int) :
    Prop where
  whole_ne_nil : whole ≠ []
  isDigit : ∀ d ∈ whole ++ fraction, d.isDigit = true
  coefficient_eq : positional ((whole ++ fraction).map (·.toNat - 48)) = c
  exponent_eq : power.getD 0 - fraction.length = e

/-- The digits of a coefficient, cut anywhere behind the first one. -/
theorem spells_digitsOf (hcut : whole ++ fraction = digitsOf c) (hne : whole ≠ [])
    (he : power.getD 0 - fraction.length = e) : Spells whole fraction power c e := by
  refine ⟨hne, ?_, ?_, he⟩
  · rw [hcut]
    exact fun d hd => isDigit_of_mem_digitsOf hd
  · rw [hcut]
    exact positional_digitsOf c

theorem positional_zeros (k : Nat) (ds : List Nat) :
    positional (List.replicate k 0 ++ ds) = positional ds := by
  induction k with
  | zero => rfl
  | succ k ih =>
      rw [List.replicate_succ, List.cons_append, positional, List.foldl_cons]
      exact ih

/-- The digits of a coefficient behind zeros of which the first stands before the point. -/
theorem spells_zeros (c k : Nat) :
    Spells ['0'] (List.replicate k '0' ++ digitsOf c) none c
      (-(k + (digitsOf c).length : Nat)) := by
  refine ⟨by simp, ?_, ?_, by simp⟩
  · simp only [List.singleton_append, List.forall_mem_cons, List.forall_mem_append]
    refine ⟨by decide, fun d hd => ?_, fun d hd => isDigit_of_mem_digitsOf hd⟩
    rw [List.eq_of_mem_replicate hd]
    decide
  · have hzeros := positional_zeros (k + 1) ((digitsOf c).map (·.toNat - 48))
    rw [positional_digitsOf, List.replicate_succ] at hzeros
    simpa using hzeros

theorem exists_spells_plain (he : e ≤ 0) (htop : -6 ≤ adjusted c e) :
    ∃ whole fraction, Spells whole fraction none c e ∧ finiteText c e = pointed whole fraction := by
  have hne := digitsOf_ne_nil c
  obtain ⟨k, rfl⟩ : ∃ k : Nat, e = -k := ⟨(-e).toNat, by omega⟩
  have hplaces : (- -(k : Int)).toNat = k := by omega
  unfold finiteText
  rw [if_pos ⟨he, htop⟩, hplaces, ← digitsOf]
  dsimp only
  by_cases hwhole : k = 0
  · rw [if_pos hwhole]
    refine ⟨digitsOf c, [], spells_digitsOf (List.append_nil _) hne ?_, ?_⟩
    · simp [hwhole]
    · rw [pointed, if_pos rfl]
  · rw [if_neg hwhole]
    by_cases hpoint : k < (digitsOf c).length
    · rw [if_pos hpoint]
      refine ⟨_, _, spells_digitsOf (List.take_append_drop ((digitsOf c).length - k) _) ?_ ?_, ?_⟩
      · intro hnil
        rcases List.take_eq_nil_iff.mp hnil with hzero | hdigits
        · omega
        · exact hne hdigits
      · rw [List.length_drop, Option.getD_none]
        omega
      · rw [pointed, if_neg]
        rw [List.drop_eq_nil_iff]
        omega
    · rw [if_neg hpoint]
      have hspells := spells_zeros c (k - (digitsOf c).length)
      rw [Nat.sub_add_cancel (Nat.le_of_not_lt hpoint)] at hspells
      refine ⟨_, _, hspells, ?_⟩
      rw [pointed, if_neg (List.append_ne_nil_of_right_ne_nil _ hne)]
      rfl

theorem exists_spells_scientific (h : ¬ (e ≤ 0 ∧ -6 ≤ adjusted c e)) :
    ∃ whole fraction, Spells whole fraction (some (adjusted c e)) c e ∧
      finiteText c e = pointed whole fraction ++ marked (some (adjusted c e)) := by
  have hwidth : width c = (digitsOf c).length := rfl
  unfold finiteText
  rw [if_neg h, ← digitsOf, ← digitsOf]
  obtain ⟨d, rest, hdigits⟩ := List.exists_cons_of_ne_nil (digitsOf_ne_nil c)
  refine ⟨[d], rest, spells_digitsOf hdigits.symm (List.cons_ne_nil _ _) ?_, ?_⟩
  · rw [Option.getD_some, adjusted, hwidth, hdigits, List.length_cons]
    omega
  · rw [hdigits]
    cases rest with
    | nil => rfl
    | cons d' rest => rfl

/-- Every coefficient with an exponent is spelled by its text. -/
theorem exists_spells (c : Nat) (e : Int) : ∃ whole fraction power,
    Spells whole fraction power c e ∧
      finiteText c e = pointed whole fraction ++ marked power := by
  by_cases h : e ≤ 0 ∧ -6 ≤ adjusted c e
  · obtain ⟨whole, fraction, hspells, htext⟩ := exists_spells_plain h.1 h.2
    exact ⟨whole, fraction, none, hspells, by rw [htext, marked, List.append_nil]⟩
  · obtain ⟨whole, fraction, hspells, htext⟩ := exists_spells_scientific h
    exact ⟨whole, fraction, _, hspells, htext⟩

/-! ### Reading -/

theorem allDigits?_of_isDigit {cs : List Char} (hcs : ∀ c ∈ cs, c.isDigit = true) :
    allDigits? cs = some (cs.map (·.toNat - 48)) := by
  unfold allDigits?
  induction cs with
  | nil => rfl
  | cons c cs ih =>
      obtain ⟨hc, hrest⟩ := List.forall_mem_cons.mp hcs
      rw [List.mapM_cons, digit?_of_isDigit hc, ih hrest]
      rfl

theorem mantissa?_pointed (hdigits : ∀ d ∈ whole ++ fraction, d.isDigit = true) :
    mantissa? (pointed whole fraction) =
      some ((whole ++ fraction).map (·.toNat - 48), fraction.length) := by
  have hpoint : ∀ {cs : List Char}, (∀ d ∈ cs, d.isDigit = true) → '.' ∉ cs :=
    fun h hmem => absurd (h '.' hmem) (by decide)
  obtain ⟨hwhole, hfraction⟩ := List.forall_mem_append.mp hdigits
  unfold mantissa? pointed
  by_cases hnil : fraction = []
  · subst hnil
    rw [if_pos rfl, splitAt_of_not_mem (hpoint hwhole)]
    simp [allDigits?_of_isDigit hwhole]
  · rw [if_neg hnil, splitAt_append (hpoint hwhole), splitAt_of_not_mem (hpoint hfraction)]
    dsimp only
    rw [allDigits?_of_isDigit hdigits]
    rfl

/-- No exponent is marked inside digits with a point. -/
theorem not_mark_of_mem_pointed (hdigits : ∀ d ∈ whole ++ fraction, d.isDigit = true) {d : Char}
    (hd : d ∈ pointed whole fraction) : (!(d == 'e' || d == 'E')) = true := by
  have hne : d = '.' ∨ d.isDigit = true := by
    unfold pointed at hd
    split at hd
    · exact .inr (hdigits d (List.mem_append_left _ hd))
    · rcases List.mem_append.mp hd with hwhole | hrest
      · exact .inr (hdigits d (List.mem_append_left _ hwhole))
      · rcases List.mem_cons.mp hrest with rfl | hfraction
        · exact .inl rfl
        · exact .inr (hdigits d (List.mem_append_right _ hfraction))
  rcases hne with rfl | hdigit
  · decide
  · have he : d ≠ 'e' := ne_of_isDigit hdigit (by decide)
    have hE : d ≠ 'E' := ne_of_isDigit hdigit (by decide)
    simp [he, hE]

theorem sign_marked (power : Int) :
    sign ((if power < 0 then '-' else '+') :: digitsOf power.natAbs) =
      (decide (power < 0), digitsOf power.natAbs) := by
  by_cases h : power < 0
  · simp [h, sign]
  · simp [h, sign]

/-- Nothing but the mark stops the reading of digits with a point. -/
theorem cut_spelled (hdigits : ∀ d ∈ whole ++ fraction, d.isDigit = true) (power : Option Int) :
    (pointed whole fraction ++ marked power).takeWhile (fun d => !(d == 'e' || d == 'E')) =
        pointed whole fraction ∧
      (pointed whole fraction ++ marked power).dropWhile (fun d => !(d == 'e' || d == 'E')) =
        marked power := by
  have hmark := fun d => not_mark_of_mem_pointed hdigits (d := d)
  cases power with
  | none =>
      rw [marked, List.append_nil]
      exact ⟨List.takeWhile_eq_self_iff.mpr hmark, List.dropWhile_eq_nil_iff.mpr hmark⟩
  | some power =>
      rw [marked, takeWhile_append_stop (by decide), dropWhile_append_stop (by decide),
        List.takeWhile_eq_self_iff.mpr hmark, List.dropWhile_eq_nil_iff.mpr hmark, List.nil_append]
      exact ⟨rfl, rfl⟩

/-- The digits in front of the mark and the power behind it are read each by itself. -/
theorem Spells.finite?_eq (h : Spells whole fraction power c e) (negative : Bool)
    (hlow : minWritten ≤ e) (htop : adjusted c e ≤ maxWritten) :
    finite? negative (pointed whole fraction ++ marked power) = some (.finite negative c e) := by
  have hnil : (whole ++ fraction).map (·.toNat - 48) ≠ [] := by simp [h.whole_ne_nil]
  have hrange : (if c = 0 then e else adjusted c e) ≤ maxWritten ∧ minWritten ≤ e := by
    refine ⟨?_, hlow⟩
    split
    · rename_i hc
      have hwidth : width 0 = 1 := rfl
      rw [hc, adjusted, hwidth] at htop
      omega
    · exact htop
  obtain ⟨htake, hdrop⟩ := cut_spelled h.isDigit power
  have hcoefficient := h.coefficient_eq
  have hexponent := h.exponent_eq
  unfold finite?
  dsimp only
  rw [htake, hdrop, mantissa?_pointed h.isDigit]
  generalize (whole ++ fraction).map (·.toNat - 48) = ds at hnil hcoefficient
  cases power with
  | none =>
      have hplaces : -(fraction.length : Int) = e := by
        rw [Option.getD_none] at hexponent
        omega
      simp [hnil, marked, hcoefficient, hplaces, hrange]
  | some power =>
      rw [Option.getD_some] at hexponent
      have hne : (digitsOf power.natAbs).isEmpty = false := by simp [digitsOf_ne_nil]
      have hdigits := allDigits?_of_isDigit fun d hd =>
        isDigit_of_mem_digitsOf (n := power.natAbs) hd
      simp [hnil, marked, sign_marked, hne, hdigits, positional_digitsOf, signed_natAbs,
        hcoefficient, hexponent, hrange]

/-! ### The whole text -/

theorem isFigure_of_mem_pointed (hdigits : ∀ d ∈ whole ++ fraction, d.isDigit = true) :
    ∀ d ∈ pointed whole fraction, isFigure d = true := by
  obtain ⟨hwhole, hfraction⟩ := List.forall_mem_append.mp hdigits
  unfold pointed
  split
  · exact fun d hd => isFigure_of_isDigit (hwhole d hd)
  · rw [List.forall_mem_append, List.forall_mem_cons]
    exact ⟨fun d hd => isFigure_of_isDigit (hwhole d hd), by decide,
      fun d hd => isFigure_of_isDigit (hfraction d hd)⟩

theorem isFigure_of_mem_marked (power : Option Int) : ∀ d ∈ marked power, isFigure d = true := by
  cases power with
  | none => exact List.forall_mem_nil _
  | some power =>
      rw [marked, List.forall_mem_cons, List.forall_mem_cons]
      refine ⟨by decide, ?_, fun d hd => isFigure_of_mem_digitsOf hd⟩
      split <;> decide

theorem isFigure_of_mem_finiteText : ∀ d ∈ finiteText c e, isFigure d = true := by
  obtain ⟨whole, fraction, power, hspells, htext⟩ := exists_spells c e
  rw [htext, List.forall_mem_append]
  exact ⟨isFigure_of_mem_pointed hspells.isDigit, isFigure_of_mem_marked power⟩

theorem isFigure_of_mem_text (negative : Bool) (c : Nat) (e : Int) :
    ∀ d ∈ (text (.finite negative c e)).toList, isFigure d = true := by
  rw [text, String.toList_ofList, List.forall_mem_append]
  refine ⟨?_, isFigure_of_mem_finiteText⟩
  cases negative with
  | false => exact List.forall_mem_nil _
  | true => exact List.forall_mem_singleton.mpr (by decide)

theorem Spells.exists_digit (h : Spells whole fraction power c e) :
    ∃ d cs, d.isDigit = true ∧ pointed whole fraction ++ marked power = d :: cs := by
  obtain ⟨d, rest, rfl⟩ := List.exists_cons_of_ne_nil h.whole_ne_nil
  refine ⟨d, ?_⟩
  have hd := h.isDigit d (List.mem_append_left _ List.mem_cons_self)
  unfold pointed
  split
  · exact ⟨_, hd, rfl⟩
  · exact ⟨_, hd, rfl⟩

theorem sign_signText {d : Char} (hd : d.isDigit = true) (negative : Bool) (cs : List Char) :
    sign (signText negative ++ d :: cs) = (negative, d :: cs) := by
  cases negative with
  | true => rfl
  | false =>
      apply sign.eq_3
      · rintro rest heq
        exact ne_of_isDigit hd (by decide) (List.cons.inj heq).1
      · rintro rest heq
        exact ne_of_isDigit hd (by decide) (List.cons.inj heq).1

theorem sign_subset (cs : List Char) : (sign cs).2 ⊆ cs := by
  unfold sign
  split
  · exact List.subset_cons_self _ _
  · exact List.subset_cons_self _ _
  · exact List.Subset.refl _

theorem trim_of_not_blank {cs : List Char} (hcs : ∀ x ∈ cs, isBlank x = false) : trim cs = cs :=
  trimBy_eq_self (fun x hx => hcs x (List.mem_of_mem_head? hx))
    fun x hx => hcs x (List.mem_of_mem_getLast? hx)

theorem filter_of_not_mem {cs : List Char} (hcs : '_' ∉ cs) : cs.filter (· != '_') = cs := by
  apply List.filter_eq_self.mpr
  intro x hx
  apply bne_iff_ne.mpr
  rintro rfl
  exact hcs hx

theorem toLower_of_isFigure {d : Char} (hd : isFigure d = true) :
    d.toLower ≠ 'i' ∧ d.toLower ≠ 'n' ∧ d.toLower ≠ 's' := by
  rw [isFigure, Bool.or_eq_true] at hd
  rcases hd with hdigit | hmark
  · rw [toLower_of_isDigit hdigit]
    exact ⟨ne_of_isDigit hdigit (by decide), ne_of_isDigit hdigit (by decide),
      ne_of_isDigit hdigit (by decide)⟩
  · have hall : ['+', '-', '.', 'e', 'E'].all
        (fun d => d.toLower != 'i' && d.toLower != 'n' && d.toLower != 's') = true := by decide
    simpa [and_assoc] using List.all_eq_true.mp hall d (List.contains_iff_mem.mp hmark)

/-- What consists of figures is read as digits, and not as a name. -/
theorem ofText?_of_isFigure {cs : List Char} (hcs : ∀ x ∈ cs, isFigure x = true) :
    ofText? cs = finite? (sign cs).1 (sign cs).2 := by
  have htrim := trim_of_not_blank fun x hx => isBlank_of_isFigure (hcs x hx)
  have hfilter : cs.filter (· != '_') = cs :=
    filter_of_not_mem fun hmem => absurd (hcs '_' hmem) (by decide)
  unfold ofText?
  rw [htrim, hfilter]
  dsimp only
  have hbody : ∀ x ∈ (sign cs).2, isFigure x = true := fun x hx => hcs x (sign_subset cs hx)
  generalize (sign cs).2 = body at hbody
  cases body with
  | nil => rfl
  | cons d rest =>
      obtain ⟨hi, hn, hs⟩ := toLower_of_isFigure (hbody d List.mem_cons_self)
      simp [lower, afterPrefix?, hi, hn.symm, hs.symm]

/-- A finite decimal is read from its text. -/
theorem ofText?_text (negative : Bool) (hlow : minWritten ≤ e) (htop : adjusted c e ≤ maxWritten) :
    ofText? (text (.finite negative c e)).toList = some (.finite negative c e) := by
  obtain ⟨whole, fraction, power, hspells, htext⟩ := exists_spells c e
  obtain ⟨d, rest, hd, hcs⟩ := hspells.exists_digit
  have hfinite := hspells.finite?_eq negative hlow htop
  rw [hcs] at htext hfinite
  rw [ofText?_of_isFigure (isFigure_of_mem_text negative c e), text, String.toList_ofList, htext,
    sign_signText hd]
  exact hfinite

/-! ### Names -/

theorem isFinite_of_finite? {negative : Bool} {cs : List Char} {d : Decimal}
    (h : finite? negative cs = some d) : d.isFinite = true := by
  have hlast : ∀ {p : Prop} [Decidable p] {c : Nat} {e : Int},
      (if p then some (finite negative c e) else none) = some d → d.isFinite = true := by
    intro p _ c e hd
    split at hd
    · rw [← Option.some.inj hd]
      rfl
    · cases hd
  unfold finite? at h
  simp only [Option.bind_eq_bind, Option.bind_eq_some_iff] at h
  obtain ⟨⟨digits, places⟩, -, h⟩ := h
  dsimp only at h
  split at h
  · cases h
  · split at h
    · exact hlast h
    · split at h
      · cases h
      · obtain ⟨power, -, hd⟩ := Option.bind_eq_some_iff.mp h
        exact hlast hd

/-- Figures are never read as an infinity or as a not-a-number. -/
theorem isFinite_of_isFigure {cs : List Char} {d : Decimal} (hcs : ∀ x ∈ cs, isFigure x = true)
    (h : ofText? cs = some d) : d.isFinite = true := by
  rw [ofText?_of_isFigure hcs] at h
  exact isFinite_of_finite? h

/-- The digits of a payload; there are none for zero. -/
theorem exists_payload (payload : Nat) : ∃ ds : List Char, (∀ d ∈ ds, d.isDigit = true) ∧
    (if payload = 0 then [] else Nat.toDigits 10 payload) = ds ∧
      positional (ds.map (·.toNat - 48)) = payload := by
  by_cases hzero : payload = 0
  · exact ⟨[], List.forall_mem_nil _, if_pos hzero, by simp [positional, hzero]⟩
  · exact ⟨digitsOf payload, fun d hd => isDigit_of_mem_digitsOf hd, if_neg hzero,
      positional_digitsOf payload⟩

theorem lower_of_isDigit {ds : List Char} (hds : ∀ d ∈ ds, d.isDigit = true) : lower ds = ds := by
  unfold lower
  rw [List.map_congr_left fun d hd => toLower_of_isDigit (hds d hd), List.map_id']

theorem ofText?_nan (negative signalling : Bool) (payload : Nat) :
    ofText? (text (.nan negative signalling payload)).toList =
      some (.nan negative signalling payload) := by
  obtain ⟨ds, hds, hdigits, hpayload⟩ := exists_payload payload
  have hread := allDigits?_of_isDigit hds
  have hlower := lower_of_isDigit hds
  unfold lower at hlower
  rw [text, hdigits, String.toList_ofList]
  have hchars : ∀ x ∈ signText negative ++ (if signalling then "sNaN" else "NaN").toList ++ ds,
      isBlank x = false ∧ x ≠ '_' := by
    intro x hx
    rcases List.mem_append.mp hx with hname | hdigit
    · have hall : (signText negative ++ (if signalling then "sNaN" else "NaN").toList).all
          (fun x => !isBlank x && x != '_') = true := by
        cases negative <;> cases signalling <;> decide
      simpa using List.all_eq_true.mp hall x hname
    · exact ⟨isBlank_of_isDigit (isDigit_of_isDigit (hds x hdigit)),
        ne_of_isDigit (hds x hdigit) (by decide)⟩
  unfold ofText?
  rw [trim_of_not_blank fun x hx => (hchars x hx).1,
    filter_of_not_mem fun hmem => (hchars '_' hmem).2 rfl]
  cases negative <;> cases signalling <;>
    simp [signText, sign, lower, hlower, afterPrefix?, nan?, hread, hpayload]

/-- Infinities and not-a-numbers are read from their names. -/
theorem ofText?_name {d : Decimal} (hd : d.isFinite = false) : ofText? d.text.toList = some d := by
  cases d with
  | finite negative c e => cases hd
  | infinity negative => cases negative <;> decide +kernel
  | nan negative signalling payload => exact ofText?_nan negative signalling payload

/-- A text that is read as an infinity or as a not-a-number. -/
def IsNonFinite (s : String) : Prop := ∃ d, ofText? s.toList = some d ∧ d.isFinite = false

theorem not_isNonFinite_of_isFigure {s : String} (hs : ∀ x ∈ s.toList, isFigure x = true) :
    ¬ IsNonFinite s := by
  rintro ⟨d, hread, hd⟩
  rw [isFinite_of_isFigure hs hread] at hd
  cases hd

theorem isNonFinite_text_iff (d : Decimal) : IsNonFinite d.text ↔ d.isFinite = false := by
  constructor
  · intro h
    cases d with
    | finite negative c e =>
        exact absurd h (not_isNonFinite_of_isFigure (isFigure_of_mem_text negative c e))
    | infinity negative => rfl
    | nan negative signalling payload => rfl
  · intro hd
    exact ⟨d, ofText?_name hd, hd⟩

end Decimal

end CriteriaSearch
