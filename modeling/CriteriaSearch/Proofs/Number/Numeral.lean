import CriteriaSearch.Number.Numeral
import CriteriaSearch.Proofs.Text.Blank
import Mathlib.Algebra.Group.Int.Defs
import Mathlib.Algebra.Group.Nat.Defs
import Mathlib.Data.List.Induction

/-!
# Numerals are read back

Digits of any script are read as an integer unless they are too many. The numeral of an integer
consists of ASCII digits, with a minus before them if the integer is negative, and is read as the
integer again. Blanks around a numeral do not matter.
-/

namespace CriteriaSearch.Numeral

open Text

theorem toNat_of_isDigit {c : Char} (hc : c.isDigit = true) : 48 ≤ c.toNat ∧ c.toNat ≤ 57 := by
  simp only [Char.isDigit, Bool.and_eq_true, decide_eq_true_eq] at hc
  exact hc

theorem ne_of_isDigit {c d : Char} (hc : c.isDigit = true) (hd : d.isDigit = false) : c ≠ d := by
  rintro rfl
  rw [hc] at hd
  cases hd

theorem toLower_of_isDigit {c : Char} (hc : c.isDigit = true) : c.toLower = c := by
  have hupper : ¬ (c.val ≥ 'A'.val ∧ c.val ≤ 'Z'.val) := by
    intro hupper
    have hlow : 65 ≤ c.toNat := hupper.1
    have hhigh := (toNat_of_isDigit hc).2
    omega
  unfold Char.toLower
  exact dif_neg hupper

theorem digit?_of_isDigit {c : Char} (hc : c.isDigit = true) : digit? c = some (c.toNat - 48) := by
  obtain ⟨hlow, hhigh⟩ := toNat_of_isDigit hc
  unfold digit? zeros
  rw [List.findSome?_cons, if_pos ⟨hlow, by omega⟩]

theorem isDigit_of_isDigit {c : Char} (hc : c.isDigit = true) : isDigit c = true := by
  rw [isDigit, digit?_of_isDigit hc]
  rfl

/-- What follows a digit is read digit by digit. -/
theorem moreDigits?_of_isDigit {cs : List Char} (hcs : ∀ c ∈ cs, isDigit c = true) :
    moreDigits? cs = some (cs.map fun c => (digit? c).getD 0) := by
  induction cs with
  | nil => rfl
  | cons c cs ih =>
      obtain ⟨hc, hrest⟩ := List.forall_mem_cons.mp hcs
      obtain ⟨d, hd⟩ := Option.isSome_iff_exists.mp hc
      have hne : c ≠ '_' := by
        rintro rfl
        exact absurd hc (by decide)
      rw [moreDigits?.eq_3 c cs hne, ih hrest, List.map_cons, hd]
      rfl

theorem digits?_of_isDigit {cs : List Char} (hne : cs ≠ []) (hcs : ∀ c ∈ cs, isDigit c = true) :
    digits? cs = some (cs.map fun c => (digit? c).getD 0) := by
  obtain ⟨c, rest, rfl⟩ := List.exists_cons_of_ne_nil hne
  obtain ⟨hc, hrest⟩ := List.forall_mem_cons.mp hcs
  obtain ⟨d, hd⟩ := Option.isSome_iff_exists.mp hc
  rw [digits?, moreDigits?_of_isDigit hrest, List.map_cons, hd]
  rfl

/-- The digits of a number. -/
def digitsOf (n : Nat) : List Char := Nat.toDigits 10 n

theorem isDigit_of_mem_digitsOf {n : Nat} {c : Char} (hc : c ∈ digitsOf n) : c.isDigit = true :=
  Nat.isDigit_of_mem_toDigits (by decide) (by decide) hc

theorem digitsOf_ne_nil (n : Nat) : digitsOf n ≠ [] := Nat.toDigits_ne_nil

theorem ofDigitChars_digitsOf (n : Nat) : Nat.ofDigitChars 10 (digitsOf n) 0 = n :=
  Nat.ofDigitChars_ten_toDigits

theorem positional_ascii (cs : List Char) :
    positional (cs.map (·.toNat - 48)) = Nat.ofDigitChars 10 cs 0 := by
  rw [positional, List.foldl_map]
  rfl

theorem positional_digitsOf (n : Nat) :
    positional ((digitsOf n).map (·.toNat - 48)) = n := by
  rw [positional_ascii, ofDigitChars_digitsOf]

theorem toList_toString (n : Nat) : (toString n).toList = digitsOf n := by
  rw [Nat.toString_eq_ofList_toDigits, String.toList_ofList, digitsOf]

theorem text_natCast (n : Nat) : (text n).toList = digitsOf n := toList_toString n

theorem text_negSucc (n : Nat) : (text (Int.negSucc n)).toList = '-' :: digitsOf (n + 1) := by
  have htext : text (Int.negSucc n) = "-" ++ toString (n + 1) := rfl
  rw [htext, String.toList_append, toList_toString]
  rfl

/-- A fact on the digits of all scripts can be checked script by script. -/
theorem forall_isDigit {p : Char → Bool}
    (h : ∀ z ∈ zeros, ∀ d < 10, p (Char.ofNat (z + d)) = true) {c : Char}
    (hc : isDigit c = true) : p c = true := by
  obtain ⟨n, hn⟩ := Option.isSome_iff_exists.mp hc
  obtain ⟨z, hz, hfound⟩ := List.exists_of_findSome?_eq_some hn
  by_cases hrange : z ≤ c.toNat ∧ c.toNat < z + 10
  · have hchar := h z hz (c.toNat - z) (by omega)
    rwa [Nat.add_sub_cancel' hrange.1, Char.ofNat_toNat] at hchar
  · rw [if_neg hrange] at hfound
    cases hfound

theorem isMargin_of_isDigit {c : Char} (hc : isDigit c = true) : isMargin c = false := by
  have h := forall_isDigit (p := fun c => !isMargin c) (by decide +kernel) hc
  simpa using h

theorem trimBy_isMargin_of_isDigit {pre body : List Char} (hpre : ∀ c ∈ pre, isMargin c = false)
    (hbody : ∀ c ∈ body, isDigit c = true) : trimBy isMargin (pre ++ body) = pre ++ body := by
  have hall : ∀ c ∈ pre ++ body, isMargin c = false := by
    intro c hc
    rcases List.mem_append.mp hc with hc | hc
    · exact hpre c hc
    · exact isMargin_of_isDigit (hbody c hc)
  exact trimBy_eq_self (fun c hc => hall c (List.mem_of_mem_head? hc))
    (fun c hc => hall c (List.mem_of_mem_getLast? hc))

theorem sign_of_isDigit {cs : List Char} (hcs : ∀ c ∈ cs, isDigit c = true) :
    sign cs = (false, cs) := by
  refine sign.eq_3 cs ?_ ?_
  · rintro rest rfl
    exact absurd (hcs '-' List.mem_cons_self) (by decide)
  · rintro rest rfl
    exact absurd (hcs '+' List.mem_cons_self) (by decide)

theorem isDigit_digitsOf (n : Nat) : ∀ c ∈ digitsOf n, isDigit c = true :=
  fun _ hc => isDigit_of_isDigit (isDigit_of_mem_digitsOf hc)

theorem digits?_ascii {cs : List Char} (hne : cs ≠ []) (hcs : ∀ c ∈ cs, c.isDigit = true) :
    digits? cs = some (cs.map (·.toNat - 48)) := by
  rw [digits?_of_isDigit hne fun c hc => isDigit_of_isDigit (hcs c hc)]
  refine congrArg some (List.map_congr_left fun c hc => ?_)
  rw [digit?_of_isDigit (hcs c hc), Option.getD_some]

theorem int?_of_sign {cs body : List Char} {negative : Bool} (htrim : trimBy isMargin cs = cs)
    (hsign : sign cs = (negative, body)) (hne : body ≠ [])
    (hbody : ∀ c ∈ body, c.isDigit = true) (hlength : body.length ≤ maxDigits) :
    int? cs = some (signed negative (Nat.ofDigitChars 10 body 0)) := by
  have hlength' : (body.map (·.toNat - 48)).length ≤ maxDigits := by rwa [List.length_map]
  unfold int?
  rw [htrim, hsign]
  dsimp only
  rw [digits?_ascii hne hbody]
  dsimp only
  rw [if_pos hlength', positional_ascii]

/-- ASCII digits are read as the number that they denote, unless they are too many. -/
theorem int?_ascii {cs : List Char} (hne : cs ≠ []) (hcs : ∀ c ∈ cs, c.isDigit = true)
    (hlength : cs.length ≤ maxDigits) :
    int? cs = some ((Nat.ofDigitChars 10 cs 0 : Nat) : Int) := by
  have hdigits : ∀ c ∈ cs, isDigit c = true := fun c hc => isDigit_of_isDigit (hcs c hc)
  have htrim := trimBy_isMargin_of_isDigit (List.forall_mem_nil _) hdigits
  exact int?_of_sign htrim (sign_of_isDigit hdigits) hne hcs hlength

theorem int?_sign_digitsOf {cs : List Char} {negative : Bool} {n : Nat}
    (htrim : trimBy isMargin cs = cs) (hsign : sign cs = (negative, digitsOf n))
    (hn : width n ≤ maxDigits) : int? cs = some (signed negative n) := by
  have hdigits : ∀ c ∈ digitsOf n, c.isDigit = true := fun _ hc => isDigit_of_mem_digitsOf hc
  have hread := int?_of_sign htrim hsign (digitsOf_ne_nil n) hdigits hn
  rwa [ofDigitChars_digitsOf] at hread

/-- An integer is read from its numeral. -/
theorem int?_text {n : Int} (hn : width n.natAbs ≤ maxDigits) : int? (text n).toList = some n := by
  cases n with
  | ofNat n =>
      have htrim := trimBy_isMargin_of_isDigit (List.forall_mem_nil _) (isDigit_digitsOf n)
      rw [Int.ofNat_eq_natCast, text_natCast]
      exact int?_sign_digitsOf htrim (sign_of_isDigit (isDigit_digitsOf n)) hn
  | negSucc n =>
      have hminus : ∀ c ∈ ['-'], isMargin c = false := List.forall_mem_singleton.mpr (by decide)
      have htrim := trimBy_isMargin_of_isDigit hminus (isDigit_digitsOf (n + 1))
      rw [text_negSucc]
      exact int?_sign_digitsOf htrim rfl hn

/-- Digits with an optional minus are read unless they are too many. -/
theorem int?_eq_none_iff {pre body : List Char} (hpre : pre = [] ∨ pre = ['-']) (hne : body ≠ [])
    (hbody : ∀ c ∈ body, isDigit c = true) :
    int? (pre ++ body) = none ↔ maxDigits < body.length := by
  have hmargin : ∀ c ∈ pre, isMargin c = false := by
    rcases hpre with rfl | rfl
    · exact List.forall_mem_nil _
    · exact List.forall_mem_singleton.mpr (by decide)
  have hsign : (sign (pre ++ body)).2 = body := by
    rcases hpre with rfl | rfl
    · rw [List.nil_append, sign_of_isDigit hbody]
    · rfl
  unfold int?
  rw [trimBy_isMargin_of_isDigit hmargin hbody]
  dsimp only
  rw [hsign, digits?_of_isDigit hne hbody]
  dsimp only
  rw [List.length_map]
  by_cases hlong : body.length ≤ maxDigits
  · simp [hlong]
  · simp [hlong, Nat.lt_of_not_le hlong]

theorem width_le_iff (n : Nat) : width n ≤ maxDigits ↔ n < 10 ^ maxDigits :=
  Nat.length_toDigits_le_iff (by decide) (by decide)

theorem signed_natAbs (k : Int) : signed (decide (k < 0)) k.natAbs = k := by
  unfold signed
  by_cases hk : k < 0
  · simp only [hk, decide_true, if_true]
    omega
  · simp only [hk, decide_false, Bool.false_eq_true, if_false]
    omega

theorem lt_ten_of_digit? {c : Char} {d : Nat} (h : digit? c = some d) : d < 10 := by
  obtain ⟨z, -, hz⟩ := List.exists_of_findSome?_eq_some h
  split_ifs at hz with hrange
  have hd : c.toNat - z = d := Option.some.inj hz
  omega

theorem positional_lt {ds : List Nat} (h : ∀ d ∈ ds, d < 10) :
    positional ds < 10 ^ ds.length := by
  induction ds using List.reverseRecOn with
  | nil => decide
  | append_singleton ds d ih =>
      have hrest := ih fun d hd => h d (List.mem_append_left _ hd)
      have hlast : d < 10 := h d (List.mem_append_right _ (List.mem_singleton_self d))
      have hsplit : positional (ds ++ [d]) = 10 * positional ds + d := by
        rw [positional, List.foldl_append]
        rfl
      rw [hsplit, List.length_append, List.length_singleton, pow_succ]
      omega

theorem positional_digits_lt (cs : List Char) :
    positional (cs.filterMap digit?) < 10 ^ (cs.filterMap digit?).length :=
  positional_lt fun d hd => by
    obtain ⟨c, -, hc⟩ := List.mem_filterMap.mp hd
    exact lt_ten_of_digit? hc

theorem natAbs_signed (negative : Bool) (n : Nat) : (signed negative n).natAbs = n := by
  cases negative <;> simp [signed]

/-! ### Widths -/

theorem width_pos (n : Nat) : 0 < width n := Nat.length_toDigits_pos

theorem lt_pow_width (n : Nat) : n < 10 ^ width n :=
  (Nat.length_toDigits_le_iff (by decide) (width_pos n)).mp (Nat.le_refl _)

theorem width_le_of_lt {n k : Nat} (hk : 0 < k) (h : n < 10 ^ k) : width n ≤ k :=
  (Nat.length_toDigits_le_iff (by decide) hk).mpr h

theorem pow_width_le {n : Nat} (hn : n ≠ 0) : 10 ^ (width n - 1) ≤ n := by
  apply Nat.le_of_not_lt
  intro h
  rcases Nat.eq_zero_or_pos (width n - 1) with hzero | hpos
  · rw [hzero, pow_zero, Nat.lt_one_iff] at h
    exact hn h
  · have hwidth := width_le_of_lt hpos h
    omega

theorem width_eq_succ {n k : Nat} (hlow : 10 ^ k ≤ n) (hhigh : n < 10 ^ (k + 1)) :
    width n = k + 1 := by
  have hle := width_le_of_lt k.succ_pos hhigh
  have hlt : 10 ^ k < 10 ^ width n := Nat.lt_of_le_of_lt hlow (lt_pow_width n)
  have hk := (Nat.pow_lt_pow_iff_right (by decide)).mp hlt
  omega

/-! ### Margins -/

theorem isBlank_of_isMargin {c : Char} (hc : isMargin c = true) : isBlank c = true := by
  unfold isMargin at hc
  split at hc
  · simp only [Bool.or_eq_true, beq_iff_eq, Bool.and_eq_true, decide_eq_true_eq] at hc
    rcases hc with rfl | hrange
    · decide
    · simp [isBlank, hrange]
  · exact hc

theorem isBlank_of_isDigit {c : Char} (hc : isDigit c = true) : isBlank c = false := by
  have h := forall_isDigit (p := fun c => !isBlank c) (by decide +kernel) hc
  simpa using h

/-- Digits end with a digit, whether they are the first ones or follow another digit. -/
theorem isDigit_of_mem_getLast? (cs : List Char) :
    ((digits? cs).isSome = true → ∀ c ∈ cs.getLast?, isDigit c = true) ∧
      ((moreDigits? cs).isSome = true → ∀ c ∈ cs.getLast?, isDigit c = true) := by
  induction cs with
  | nil => simp
  | cons c cs ih =>
      -- A digit in front, with what may follow it.
      have hdigit : (digits? (c :: cs)).isSome = true →
          ∀ d ∈ (c :: cs).getLast?, isDigit d = true := by
        intro hsome d hd
        rw [digits?] at hsome
        cases hc : digit? c with
        | none => simp [hc] at hsome
        | some n =>
            cases cs with
            | nil =>
                obtain rfl : c = d := by simpa using hd
                simp [isDigit, hc]
            | cons e cs =>
                refine ih.2 ?_ d (by simpa using hd)
                cases hmore : moreDigits? (e :: cs) with
                | none => simp [hc, hmore] at hsome
                | some ds => rfl
      refine ⟨hdigit, fun hsome d hd => ?_⟩
      by_cases hc : c = '_'
      · subst hc
        rw [moreDigits?] at hsome
        cases cs with
        | nil => simp [digits?] at hsome
        | cons e cs => exact ih.1 hsome d (by simpa using hd)
      · rw [moreDigits?.eq_3 c cs hc] at hsome
        exact hdigit hsome d hd

theorem isDigit_of_mem_head? {cs : List Char} (hsome : (digits? cs).isSome = true) :
    ∀ c ∈ cs.head?, isDigit c = true := by
  cases cs with
  | nil => simp
  | cons c cs =>
      refine forall_head_cons ?_ cs
      cases hc : digit? c with
      | none => simp [digits?, hc] at hsome
      | some n => simp [isDigit, hc]

/-- At most one sign, with the digits behind it. -/
theorem exists_sign (cs : List Char) :
    ∃ mark, (∀ c ∈ mark, isBlank c = false) ∧ cs = mark ++ (sign cs).2 := by
  unfold sign
  split
  · exact ⟨['-'], List.forall_mem_singleton.mpr (by decide), rfl⟩
  · exact ⟨['+'], List.forall_mem_singleton.mpr (by decide), rfl⟩
  · exact ⟨[], List.forall_mem_nil _, rfl⟩

/-- A numeral begins and ends with no blank. -/
theorem isBlank_of_sign {cs : List Char} (hsome : (digits? (sign cs).2).isSome = true) :
    (∀ c ∈ cs.head?, isBlank c = false) ∧ ∀ c ∈ cs.getLast?, isBlank c = false := by
  obtain ⟨mark, hmark, hcs⟩ := exists_sign cs
  have hne : (sign cs).2 ≠ [] := fun hnil => by simp [hnil, digits?] at hsome
  have hfirst := isDigit_of_mem_head? hsome
  have hlast := (isDigit_of_mem_getLast? (sign cs).2).1 hsome
  generalize (sign cs).2 = ds at hcs hne hfirst hlast
  subst hcs
  refine ⟨fun c hc => ?_, fun c hc => ?_⟩
  · cases mark with
    | nil => exact isBlank_of_isDigit (hfirst c hc)
    | cons d mark =>
        obtain rfl : d = c := Option.some.inj hc
        exact hmark d List.mem_cons_self
  · rw [getLast?_append_right hne] at hc
    exact isBlank_of_isDigit (hlast c hc)

/-- A text that is read as an integer is so without the blanks around it. -/
theorem int?_trim {cs : List Char} {n : Int} (h : int? cs = some n) : int? (trim cs) = some n := by
  have hsome : (digits? (sign (trimBy isMargin cs)).2).isSome = true := by
    cases hdigits : digits? (sign (trimBy isMargin cs)).2 with
    | none => simp [int?, hdigits] at h
    | some ds => rfl
  obtain ⟨hfirst, hlast⟩ := isBlank_of_sign hsome
  have hmargin : ∀ {c : Char}, isBlank c = false → isMargin c = false := fun hc =>
    Bool.eq_false_iff.mpr fun hm => by simp [isBlank_of_isMargin hm] at hc
  have hself : trimBy isMargin (trimBy isMargin cs) = trimBy isMargin cs :=
    trimBy_eq_self (fun c hc => hmargin (hfirst c hc)) fun c hc => hmargin (hlast c hc)
  have htrim : trim cs = trimBy isMargin cs := by
    obtain ⟨pre, post, hpre, hpost, hcs⟩ := exists_trimmed isMargin cs
    generalize trimBy isMargin cs = w at hcs hfirst hlast
    subst hcs
    exact trimBy_padded (fun c hc => isBlank_of_isMargin (hpre c hc))
      (fun c hc => isBlank_of_isMargin (hpost c hc)) hfirst hlast
  rw [htrim, int?, hself]
  exact h

end CriteriaSearch.Numeral
