import CriteriaSearch.Proofs.Criteria.Operands
import CriteriaSearch.Proofs.Criteria.WholeNumbers
import CriteriaSearch.Proofs.Number.Decimal.RoundTrip
import CriteriaSearch.Proofs.Number.Decimal.Sums

/-!
# Clauses on decimals

The numeral that a clause on numbers has for a decimal stands for the decimal moved by the shift of
its operator, as long as that number fits into the digits and the exponents of a sum. This holds for
a shift by zero too: an operand with more digits is not named by any clause.
-/

namespace CriteriaSearch

/-! ### Numerals in clauses -/

namespace Operator

/-- How far an operator on numbers moves each of its operands. -/
def shift : Operator → Nat → Int
  | .greater, _ => 1
  | .less, _ => -1
  | .within, 0 => -1
  | .within, _ => 1
  | _, _ => 0

/-- The operands that an operator on numbers consumes, with the shift of each. -/
def moved (op : Operator) (values : List Value) : List (Value × Int) :=
  (op.consumed values).mapIdx fun i v => (v, op.shift i)

theorem exists_mem_moved {op : Operator} {values : List Value} {v : Value}
    (hv : v ∈ op.consumed values) : ∃ k, (v, k) ∈ op.moved values := by
  obtain ⟨i, hi, rfl⟩ := List.mem_iff_getElem.mp hv
  exact ⟨_, List.mem_mapIdx.mpr ⟨i, hi, rfl⟩⟩

end Operator

theorem ClauseRule.consumed_eq_moved {op : Operator} {rule : ClauseRule} {values : List Value}
    (hrule : find? .number op = some rule) (hfilled : rule.form.isFilled values = true) :
    rule.form.consumed values = op.moved values := by
  unfold Operator.moved
  rw [← map_fst_consumed hrule hfilled]
  cases op with
  | isIn | notIn =>
      cases hrule
      apply List.ext_getElem
      · simp [ClauseForm.consumed]
      · simp [ClauseForm.consumed, Operator.shift]
  | between | notBetween | within =>
      cases hrule
      obtain ⟨v, w, rfl⟩ := List.length_eq_two.mp (by simpa [ClauseForm.isFilled] using hfilled)
      rfl
  | equal | notEqual | greater | greaterEqual | less | lessEqual =>
      cases hrule
      obtain ⟨v, vs, rfl, -⟩ := Clause.exists_head_of_isFilled hfilled
      rfl
  | _ => cases hrule

namespace Criterion

variable {c : Criterion}

/-- A clause is made of texts that stand in a relation to the operands and their shifts. -/
def Names (c : Criterion) (clause : String) (R : Value × Int → String → Prop) : Prop :=
  ∃ rule ss, c.Prints clause rule ss ∧ List.Forall₂ R (c.operator.moved c.values) ss

theorem Prints.numerals {clause : String} {rule : ClauseRule} {ss : List String}
    (h : c.Prints clause rule ss) (htype : c.valueType = .number) :
    List.Forall₂ (fun p s => Clause.numberText p.1 p.2 = .ok (some s))
      (c.operator.moved c.values) ss := by
  have hrule := h.rule_eq
  have hwritten := h.written
  rw [htype] at hrule hwritten
  rw [← ClauseRule.consumed_eq_moved hrule h.filled]
  refine forall₂_imp_of_mem hwritten ?_
  intro p hp s _ hs
  rwa [Clause.operandText_number hp] at hs

/-- A clause on numbers is made of the numerals of its operands, moved by the operator's shift. -/
theorem names_numerals (htype : c.valueType = .number) {clause : String}
    (hclause : c.clause? = .ok (some clause)) :
    c.Names clause fun p s => Clause.numberText p.1 p.2 = .ok (some s) := by
  obtain ⟨rule, ss, hprints⟩ := exists_prints hclause
  exact ⟨rule, ss, hprints, hprints.numerals htype⟩

theorem Names.imp {clause : String} {R S : Value × Int → String → Prop} (h : c.Names clause R)
    (himp : ∀ p ∈ c.operator.moved c.values, ∀ s, R p s → S p s) : c.Names clause S := by
  obtain ⟨rule, ss, hprints, hR⟩ := h
  exact ⟨rule, ss, hprints, forall₂_imp_of_mem hR fun p hp s _ => himp p hp s⟩

theorem has_clause_of_numerals (htype : c.valueType = .number)
    (hop : c.operator ∈ Operator.comparing) (hserved : c.operator.IsServed c.values)
    (hnumerals : ∀ p ∈ c.operator.moved c.values, ∃ s, Clause.numberText p.1 p.2 = .ok (some s)) :
    ∃ clause, c.clause? = .ok (some clause) := by
  obtain ⟨rule, hrule⟩ := Option.isSome_iff_exists.mp (ClauseRule.isSome_of_comparing _ hop)
  have hpresent : ∀ v ∈ c.operator.consumed c.values, v.isNull = false := by
    intro v hv
    obtain ⟨k, hp⟩ := Operator.exists_mem_moved hv
    obtain ⟨s, hs⟩ := hnumerals (v, k) hp
    cases v with
    | null => cases hs
    | _ => rfl
  have hfilled := (ClauseRule.isFilled_iff_isServed hrule hpresent).mpr hserved
  have htexts : ∀ p ∈ rule.form.consumed c.values,
      ∃ s, Clause.operandText .number rule.form p = .ok (some s) := by
    intro p hp
    rw [Clause.operandText_number hp]
    rw [ClauseRule.consumed_eq_moved hrule hfilled] at hp
    exact hnumerals p hp
  obtain ⟨ss, hwritten⟩ := exists_forall₂_of_forall htexts
  rw [← htype] at hrule hwritten
  exact ⟨_, Clause.clause?_eq_lead hrule (Clause.body_eq_print hfilled hwritten)⟩

end Criterion

/-! ### Decimals -/

namespace Decimal

/-- A text that is read as a decimal stands for its number. -/
def Denotes (s : String) (q : ℚ) : Prop := ∃ d, ofText? s.toList = some d ∧ d.value? = some q

/-- A sum of a finite decimal is finite, and its text is read as it. -/
theorem ofText?_addInt {d sum : Decimal} {q : ℚ} {k : ℤ} (hd : d.value? = some q)
    (hsum : d.addInt k = .ok sum) : ofText? sum.text.toList = some sum := by
  cases d with
  | nan negative signalling payload => cases hd
  | infinity negative => cases hd
  | finite negative c e =>
      obtain ⟨sign, n, hfinish, -⟩ := addInt_eq_finish negative c e k
      rw [hfinish] at hsum
      obtain ⟨m, x, rfl, -, hlow, htop⟩ := bounds_of_finish hsum
      apply ofText?_text
      · exact le_trans (by decide) hlow
      · exact le_trans htop (by decide)

theorem denotes_sum_iff {d sum : Decimal} {q : ℚ} {k : ℤ} (hd : d.value? = some q)
    (hsum : d.addInt k = .ok sum) : Denotes sum.text (q + k) ↔ Fits (q + k) := by
  have hread := ofText?_addInt hd hsum
  rw [← addInt_exact_iff hd]
  constructor
  · rintro ⟨d', hd', hvalue⟩
    rw [hread] at hd'
    obtain rfl := Option.some.inj hd'
    exact ⟨sum, hsum, hvalue⟩
  · rintro ⟨sum', hsum', hvalue⟩
    rw [hsum] at hsum'
    obtain rfl := Except.ok.inj hsum'
    exact ⟨sum, hread, hvalue⟩

end Decimal

/-- A finite decimal with its number. -/
def Value.IsDecimal (v : Value) (q : ℚ) : Prop := ∃ d, v = .decimal d ∧ d.value? = some q

namespace Clause

variable {d : Decimal} {q : ℚ} {k : ℤ}

theorem exists_number_of_numberText {v : Value} {s : String}
    (hs : numberText v k = .ok (some s)) :
    ∃ n, Number.ofValue v = .ok (some n) ∧ n.shiftedText k = .ok s := by
  unfold numberText at hs
  split at hs
  · cases hs
  · cases hs
  · rename_i n hread
    refine ⟨n, hread, ?_⟩
    split at hs
    · rename_i t ht
      rw [ht, Option.some.inj (Except.ok.inj hs)]
    · cases hs

theorem numberText_decimal_iff {s : String} :
    numberText (.decimal d) k = .ok (some s) ↔ ∃ sum, d.addInt k = .ok sum ∧ sum.text = s := by
  unfold numberText Number.ofValue Number.shiftedText
  cases hsum : d.addInt k with
  | ok sum => simp [hsum]
  | error e => cases e <;> simp [hsum]

theorem exists_numberText_of_fits (hd : d.value? = some q) (hfits : Decimal.Fits (q + k)) :
    ∃ s, numberText (.decimal d) k = .ok (some s) := by
  obtain ⟨sum, hsum, -⟩ := (Decimal.addInt_exact_iff hd k).mpr hfits
  exact ⟨sum.text, numberText_decimal_iff.mpr ⟨sum, hsum, rfl⟩⟩

end Clause

/-- In a clause on numbers the numeral of a finite decimal stands for the decimal moved by the
operator's shift exactly if that number fits. No clause is missing where they all fit. -/
theorem Criterion.decimals_named_iff {c : Criterion} (htype : c.valueType = .number) :
    (∀ clause, c.clause? = .ok (some clause) → c.Names clause fun p s =>
      ∀ q, p.1.IsDecimal q → (Decimal.Denotes s (q + p.2) ↔ Decimal.Fits (q + p.2))) ∧
    (c.operator ∈ Operator.comparing → c.operator.IsServed c.values →
      (∀ p ∈ c.operator.moved c.values, (∃ s, Clause.numberText p.1 p.2 = .ok (some s)) ∨
        ∃ q, p.1.IsDecimal q ∧ Decimal.Fits (q + p.2)) →
      ∃ clause, c.clause? = .ok (some clause)) := by
  constructor
  · intro clause hclause
    apply (names_numerals htype hclause).imp
    rintro ⟨v, k⟩ - s hs q ⟨d, rfl, hd⟩
    obtain ⟨sum, hsum, rfl⟩ := Clause.numberText_decimal_iff.mp hs
    exact Decimal.denotes_sum_iff hd hsum
  · intro hop hserved hoperands
    refine has_clause_of_numerals htype hop hserved fun p hp => ?_
    rcases hoperands p hp with hs | ⟨q, ⟨d, hv, hd⟩, hfits⟩
    · exact hs
    · rw [hv]
      exact Clause.exists_numberText_of_fits hd hfits

/-- A range from 1.5 to 2E+3 with both ends moved outwards. -/
def priceBand : Criterion :=
  ⟨"price", .number, .within, [.decimal (.finite false 15 (-1)), .decimal (.finite false 2 3)],
    .and⟩

theorem priceBand_decimals_named : priceBand.valueType = .number ∧
    priceBand.clause? = .ok (some "price:[0.5 TO 2001]") ∧
    priceBand.Names "price:[0.5 TO 2001]" (fun p s =>
      ∀ q, p.1.IsDecimal q → (Decimal.Denotes s (q + p.2) ↔ Decimal.Fits (q + p.2))) ∧
    priceBand.operator ∈ Operator.comparing ∧ priceBand.operator.IsServed priceBand.values ∧
    (∀ p ∈ priceBand.operator.moved priceBand.values,
      ∃ q, p.1.IsDecimal q ∧ Decimal.Fits (q + p.2)) ∧
    ∃ clause, priceBand.clause? = .ok (some clause) := by
  have hclause : priceBand.clause? = .ok (some "price:[0.5 TO 2001]") := by decide +kernel
  have hop : priceBand.operator ∈ Operator.comparing := by decide
  have hserved : priceBand.operator.IsServed priceBand.values := rfl
  have hfits : ∀ p ∈ priceBand.operator.moved priceBand.values,
      ∃ q, p.1.IsDecimal q ∧ Decimal.Fits (q + p.2) := by
    have hlow : Decimal.value false 15 (-1) + (-1 : ℤ) = (5 : ℕ) * 10 ^ (-1 : ℤ) := by
      norm_num [Decimal.value, Numeral.signed]
    have hhigh : Decimal.value false 2 3 + (1 : ℤ) = (2001 : ℕ) * 10 ^ (0 : ℤ) := by
      norm_num [Decimal.value, Numeral.signed]
    have hlist : priceBand.operator.moved priceBand.values =
        [(.decimal (.finite false 15 (-1)), -1), (.decimal (.finite false 2 3), 1)] := rfl
    rw [hlist, List.forall_mem_cons, List.forall_mem_singleton]
    constructor
    · refine ⟨_, ⟨_, rfl, rfl⟩, ?_⟩
      rw [hlow]
      exact Decimal.fits_of_bounds (by decide) (by decide) (by decide)
    · refine ⟨_, ⟨_, rfl, rfl⟩, ?_⟩
      rw [hhigh]
      exact Decimal.fits_of_bounds (by decide) (by decide) (by decide)
  obtain ⟨hnames, hexists⟩ := Criterion.decimals_named_iff (c := priceBand) rfl
  exact ⟨rfl, hclause, hnames _ hclause, hop, hserved, hfits,
    hexists hop hserved fun p hp => .inr (hfits p hp)⟩

/-- A condition on a decimal with thirty digits, next to 1. -/
def longTotal : Criterion :=
  ⟨"size", .number, .equal, [.decimal (.finite false (10 ^ 29 + 1) (-29))], .and⟩

/-- The clause names 1 instead. -/
theorem longTotal_rounded :
    longTotal.clause? = .ok (some "size:1.000000000000000000000000000") ∧
    ¬ longTotal.Names "size:1.000000000000000000000000000" fun p s =>
      ∀ q, p.1.IsDecimal q → Decimal.Denotes s (q + p.2) := by
  refine ⟨by decide +kernel, ?_⟩
  rintro ⟨rule, ss, hprints, hdenotes⟩
  have hnumerals := hprints.numerals rfl
  have hlist : longTotal.operator.moved longTotal.values =
      [(.decimal (.finite false (10 ^ 29 + 1) (-29)), 0)] := rfl
  rw [hlist] at hnumerals hdenotes
  obtain _ | ⟨hs, -⟩ := hnumerals
  obtain _ | ⟨hd, -⟩ := hdenotes
  have htext : Clause.numberText (.decimal (.finite false (10 ^ 29 + 1) (-29))) 0 =
      .ok (some "1.000000000000000000000000000") := by decide +kernel
  rw [htext] at hs
  obtain rfl := Option.some.inj (Except.ok.inj hs)
  obtain ⟨d, hread, hvalue⟩ := hd _ ⟨_, rfl, rfl⟩
  have hone : Decimal.ofText? "1.000000000000000000000000000".toList =
      some (.finite false (10 ^ 27) (-27)) := by decide +kernel
  rw [hone] at hread
  obtain rfl := Option.some.inj hread
  norm_num [Decimal.value?, Decimal.value, Numeral.signed] at hvalue

end CriteriaSearch
