import CriteriaSearch.Proofs.Criteria.Selections
import CriteriaSearch.Proofs.Number.Numeral

/-!
# Clauses on whole numbers

A clause on integers selects those integers that its operator asks for, as long as every number that
it names has a numeral. A bound that is moved by one may be the first without a numeral, since
numerals end at `Numeral.maxDigits` digits; then there is no clause but an error.
-/

namespace CriteriaSearch

/-! ### Terms -/

namespace Numeral

/-- The integer of a row of ASCII digits with at most a minus in front. -/
def plain? : List Char → Option Int
  | '-' :: ds => if ds ≠ [] ∧ ds.all Char.isDigit then some (-Nat.ofDigitChars 10 ds 0) else none
  | ds => if ds ≠ [] ∧ ds.all Char.isDigit then some (Nat.ofDigitChars 10 ds 0) else none

theorem digitsOf_spec (n : Nat) : digitsOf n ≠ [] ∧ (digitsOf n).all Char.isDigit = true :=
  ⟨digitsOf_ne_nil n, List.all_eq_true.mpr fun _ hc => isDigit_of_mem_digitsOf hc⟩

theorem plain?_text (n : Int) : plain? (text n).toList = some n := by
  cases n with
  | ofNat n =>
      have hminus : ∀ ds, digitsOf n ≠ '-' :: ds := by
        intro ds heq
        have hmem : '-' ∈ digitsOf n := heq ▸ List.mem_cons_self
        exact ne_of_isDigit (isDigit_of_mem_digitsOf hmem) (by decide) rfl
      rw [Int.ofNat_eq_natCast, text_natCast, plain?.eq_2 _ hminus, if_pos (digitsOf_spec n),
        ofDigitChars_digitsOf]
  | negSucc n =>
      rw [text_negSucc, plain?, if_pos (digitsOf_spec (n + 1)), ofDigitChars_digitsOf]
      rfl

theorem mem_text {n : Int} {c : Char} (hc : c ∈ (text n).toList) : c = '-' ∨ c.isDigit = true := by
  cases n with
  | ofNat n =>
      rw [Int.ofNat_eq_natCast, text_natCast] at hc
      exact .inr (isDigit_of_mem_digitsOf hc)
  | negSucc n =>
      rw [text_negSucc] at hc
      exact (List.mem_cons.mp hc).imp_right isDigit_of_mem_digitsOf

theorem spells_text (n : Int) : Selection.Spells plain? (text n) n := by
  have hother : ∀ c ∈ (text n).toList, ∀ d, d ≠ '-' → d.isDigit = false → c ≠ d := by
    intro c hc d hminus hd
    rcases mem_text hc with rfl | hdigit
    · exact hminus.symm
    · exact ne_of_isDigit hdigit hd
  refine ⟨plain?_text n, fun hmem => ?_, fun c hc => ?_, fun hstar => ?_⟩
  · exact hother ' ' hmem ' ' (by decide) (by decide) rfl
  · have hmem := List.mem_of_mem_head? hc
    exact ⟨hother c hmem '[' (by decide) (by decide), hother c hmem '(' (by decide) (by decide)⟩
  · exact hother '*' (hstar ▸ List.mem_cons_self) '*' (by decide) (by decide) rfl

end Numeral

/-! ### Operands -/

/-- An integer, or a text that is read as one. -/
inductive Value.IsWhole : Value → Int → Prop
  | int (n : Int) : IsWhole (.int n) n
  | text {s : String} {n : Int} (h : Numeral.int? s.toList = some n) : IsWhole (.text s) n

namespace Value.IsWhole

variable {v : Value} {n : Int}

theorem isNull_eq_false (h : v.IsWhole n) : v.isNull = false := by
  cases h <;> rfl

theorem ofValue_eq (h : v.IsWhole n) : Number.ofValue v = .ok (some (.int n)) := by
  cases h with
  | int => rfl
  | @text s n h =>
      have htext : Number.ofText? s = some (.int n) := by
        rw [Number.ofText?, Numeral.int?_trim h]
      have hwritten : (Value.text s).written = .ok s := rfl
      rw [Number.ofValue, hwritten, ← htext]
      · rfl
      all_goals simp

theorem strains_iff (h : v.IsWhole n) (shift : Int) :
    v.Strains shift .number ↔ Numeral.maxDigits < Numeral.width (n + shift).natAbs := by
  simp only [Strains, h.ofValue_eq, Number.Overflows]

theorem numberText_eq (h : v.IsWhole n) {shift : Int}
    (hshort : Numeral.width (n + shift).natAbs ≤ Numeral.maxDigits) :
    Clause.numberText v shift = .ok (some (Numeral.text (n + shift))) := by
  simp only [Clause.numberText, h.ofValue_eq, Number.shiftedText, Numeral.text?, if_pos hshort]

end Value.IsWhole

/-! ### Clauses -/

def Operator.comparing : List Operator :=
  [.equal, .notEqual, .greater, .greaterEqual, .less, .lessEqual, .between, .notBetween, .within,
    .isIn, .notIn]

/-- The integers that the clause of an operator names. -/
def Operator.bounds : Operator → List Int → List Int
  | .greater, [v] => [v + 1]
  | .less, [v] => [v - 1]
  | .within, [v, w] => [v - 1, w + 1]
  | _, vs => vs

namespace ClauseRule

variable {op : Operator} {rule : ClauseRule} {ns : List Int}

theorem isSome_of_comparing :
    ∀ op ∈ Operator.comparing, (find? .number op).isSome = true := by decide

theorem isBare_number (hrule : find? .number op = some rule) : rule.form.IsBare := by
  cases op <;> cases hrule <;> first | exact trivial | exact ⟨rfl, rfl⟩

theorem named_eq_bounds (hrule : find? .number op = some rule)
    (harity : ∀ k, op.arity = some k → ns.length = k) : rule.form.named 1 ns = op.bounds ns := by
  cases op with
  | equal | notEqual | greater | greaterEqual | less | lessEqual =>
      obtain ⟨v, rfl⟩ := List.length_eq_one_iff.mp (harity 1 rfl)
      cases hrule
      simp [ClauseForm.named, Operator.bounds, Int.sub_eq_add_neg]
  | between | notBetween | within =>
      obtain ⟨v, w, rfl⟩ := List.length_eq_two.mp (harity 2 rfl)
      cases hrule
      simp [ClauseForm.named, Operator.bounds, Int.sub_eq_add_neg]
  | isIn | notIn =>
      cases hrule
      rfl
  | _ => cases hrule

theorem contains_select_iff (hrule : find? .number op = some rule)
    (harity : ∀ k, op.arity = some k → ns.length = k) (x : Int) :
    (if rule.negated then ¬ (rule.form.select (op.bounds ns)).Contains x
      else (rule.form.select (op.bounds ns)).Contains x) ↔ op.Admits 1 ns x := by
  cases op with
  | equal | notEqual | greaterEqual | lessEqual =>
      obtain ⟨v, rfl⟩ := List.length_eq_one_iff.mp (harity 1 rfl)
      cases hrule
      simp [ClauseForm.select, Operator.bounds, Selection.Contains, Operator.Admits]
  | greater =>
      obtain ⟨v, rfl⟩ := List.length_eq_one_iff.mp (harity 1 rfl)
      cases hrule
      exact Selection.contains_atLeast.trans Int.add_one_le_iff
  | less =>
      obtain ⟨v, rfl⟩ := List.length_eq_one_iff.mp (harity 1 rfl)
      cases hrule
      exact Selection.contains_atMost.trans Int.le_sub_one_iff
  | between | notBetween | within =>
      obtain ⟨v, w, rfl⟩ := List.length_eq_two.mp (harity 2 rfl)
      cases hrule
      simp [ClauseForm.select, Operator.bounds, Selection.Contains, Operator.Admits]
  | isIn | notIn =>
      cases hrule
      simp [ClauseForm.select, Operator.bounds, Selection.Contains, Operator.Admits]
  | _ => cases hrule

end ClauseRule

theorem Clause.operandText_number {form : ClauseForm} {values : List Value} {p : Value × Int}
    (hp : p ∈ form.consumed values) : operandText .number form p = numberText p.1 p.2 := by
  cases form with
  | anyOf =>
      obtain ⟨v, -, rfl⟩ := List.mem_map.mp hp
      rfl
  | single before after =>
      cases values with
      | nil => cases hp
      | cons v vs =>
          obtain rfl := List.mem_singleton.mp hp
          rfl
  | _ => rfl

/-- An operator on integers has a clause that selects what it admits exactly if every number that
the clause names has a numeral. -/
theorem Operator.selects_admitted_iff {op : Operator}
    (hop : op ∈ comparing) {values : List Value} {ns : List Int}
    (hvalues : List.Forall₂ Value.IsWhole values ns) (hne : ns ≠ [])
    (harity : ∀ k, op.arity = some k → ns.length = k) (field : String) (how : Conjunction) :
    (∃ clause, Criterion.clause? ⟨field, .number, op, values, how⟩ = .ok (some clause) ∧
        ∀ x, Clause.Selects Numeral.plain? field clause x ↔ op.Admits 1 ns x) ↔
      ∀ n ∈ op.bounds ns, Numeral.width n.natAbs ≤ Numeral.maxDigits := by
  obtain ⟨rule, hrule⟩ := Option.isSome_iff_exists.mp (ClauseRule.isSome_of_comparing op hop)
  obtain ⟨hnonempty, hpresent, hform⟩ :=
    ClauseRule.operands_present Value.IsWhole.isNull_eq_false hrule hvalues hne harity
  have hnamed := ClauseForm.forall₂_consumed hvalues hform 1
  rw [ClauseRule.named_eq_bounds hrule harity] at hnamed
  constructor
  · rintro ⟨clause, hclause, -⟩ n hn
    obtain ⟨p, hp, v, hv, rfl⟩ := exists_of_forall₂_right hnamed hn
    rw [Int.mul_one]
    refine Nat.le_of_not_lt fun hlong => ?_
    have hstrained : Criterion.IsStrained ⟨field, .number, op, values, how⟩ :=
      ⟨rule, hrule, p, hp, (hv.strains_iff p.2).mpr hlong⟩
    obtain ⟨e, he⟩ := (Criterion.clause?_fails_iff _).mpr hstrained
    rw [hclause] at he
    cases he
  · intro hshort
    have hwritten : Clause.Written .number rule.form values ((op.bounds ns).map Numeral.text) := by
      refine List.forall₂_map_right_iff.mpr (forall₂_imp_of_mem hnamed ?_)
      rintro p hp n hn ⟨v, hv, rfl⟩
      rw [Int.mul_one] at hn ⊢
      rw [Clause.operandText_number hp, hv.numberText_eq (hshort _ hn)]
    have hspells : List.Forall₂ (Selection.Spells Numeral.plain?)
        ((op.bounds ns).map Numeral.text) (op.bounds ns) :=
      List.forall₂_map_left_iff.mpr (List.forall₂_same.mpr fun n _ => Numeral.spells_text n)
    obtain ⟨hclause, hread⟩ :=
      Clause.clause?_read (c := ⟨field, .number, op, values, how⟩) hrule
        (ClauseRule.isBare_number hrule) hnonempty hpresent hform hwritten hspells
    refine ⟨_, hclause, fun x => ?_⟩
    rw [← ClauseRule.contains_select_iff hrule harity x]
    simp [Clause.Selects, hread]

theorem shelf_selects :
    Operator.within ∈ Operator.comparing ∧
    List.Forall₂ Value.IsWhole [.text " -3 ", .int 10] [-3, 10] ∧ [(-3 : Int), 10] ≠ [] ∧
    (∀ k, Operator.within.arity = some k → [(-3 : Int), 10].length = k) ∧
    Criterion.clause? ⟨"shelf", .number, .within, [.text " -3 ", .int 10], .and⟩ =
      .ok (some "shelf:[-4 TO 11]") ∧
    ∀ x, Clause.Selects Numeral.plain? "shelf" "shelf:[-4 TO 11]" x ↔
      Operator.within.Admits 1 [-3, 10] x := by
  have hop : Operator.within ∈ Operator.comparing := by decide
  have hvalues : List.Forall₂ Value.IsWhole [.text " -3 ", .int 10] [-3, 10] :=
    .cons (.text (by decide +kernel)) (.cons (.int 10) .nil)
  have hne : [(-3 : Int), 10] ≠ [] := List.cons_ne_nil _ _
  have harity : ∀ k, Operator.within.arity = some k → [(-3 : Int), 10].length = k :=
    fun k hk => Option.some.inj hk
  have hclause : Criterion.clause? ⟨"shelf", .number, .within, [.text " -3 ", .int 10], .and⟩ =
      .ok (some "shelf:[-4 TO 11]") := by decide +kernel
  obtain ⟨clause, hsome, hselects⟩ :=
    (Operator.selects_admitted_iff hop hvalues hne harity "shelf" .and).mpr (by decide +kernel)
  obtain rfl := Option.some.inj (Except.ok.inj (hsome.symm.trans hclause))
  exact ⟨hop, hvalues, hne, harity, hclause, hselects⟩

theorem Numeral.natAbs_nines_lt (k : Nat) : (10 ^ k - 1 : Int).natAbs < 10 ^ k := by
  have hpos : (1 : Int) ≤ 10 ^ k := Int.add_one_le_of_lt (Int.pow_pos (by decide))
  have hcast : (((10 ^ k : Nat)) : Int) = 10 ^ k := by simp
  omega

/-- The greatest number with a numeral has none after it was moved by one. -/
theorem greatest_has_no_clause :
    Numeral.width (10 ^ Numeral.maxDigits - 1 : Int).natAbs ≤ Numeral.maxDigits ∧
    Criterion.clause? ⟨"size", .number, .greater, [.int (10 ^ Numeral.maxDigits - 1)], .and⟩ =
      .error (.numeral .tooLong) := by
  have hnone : Numeral.text? (10 ^ Numeral.maxDigits - 1 + 1) = none := by
    have hlong : ¬ Numeral.width (10 ^ Numeral.maxDigits) ≤ Numeral.maxDigits := by
      rw [Numeral.width_le_iff]
      exact Nat.lt_irrefl _
    have hten : (10 : Int).natAbs = 10 := rfl
    rw [Int.sub_add_cancel, Numeral.text?, Int.natAbs_pow, hten, if_neg hlong]
  refine ⟨?_, ?_⟩
  · exact (Numeral.width_le_iff _).mpr (Numeral.natAbs_nines_lt _)
  · simp only [Criterion.clause?, ClauseRule.find?, Clause.body, List.head?_cons, Option.getD_some,
      Value.isNull, Clause.boundText, Clause.numberText, Number.ofValue, Number.shiftedText, hnone]
    rfl

end CriteriaSearch
