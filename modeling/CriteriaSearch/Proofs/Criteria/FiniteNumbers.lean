import CriteriaSearch.Proofs.Criteria.Decimals
import CriteriaSearch.Proofs.Number.Binary64

/-!
# Infinite operands

Decimals that are infinite or not a number pass for numbers, and so do texts of numbers that are too
great for a binary number. They are the only operands whose numeral in a clause is not a finite one.
-/

namespace CriteriaSearch

namespace Number

def IsFinite : Number → Prop
  | .int _ => True
  | .float x => x.isFinite = true
  | .decimal d => d.isFinite = true

/-- Binary numbers are in the range of the format. -/
def IsDouble : Number → Prop
  | .float x => x.IsDouble
  | _ => True

/-- A text of a decimal that is rounded to infinity, and that is no integer numeral. -/
def IsVast (s : String) : Prop :=
  Numeral.int? (Text.trim s.toList) = none ∧
    ∃ negative c e, Decimal.ofText? (Text.trim s.toList) = some (.finite negative c e) ∧
      Binary64.overflowBound ≤ (c : ℚ) * 10 ^ e

end Number

namespace Value

/-- A decimal that is not finite, or another value whose text is vast. -/
def IsBoundless : Value → Prop
  | .null => False
  | .bool _ => False
  | .int _ => False
  | .float _ => False
  | .decimal d => d.isFinite = false
  | v => ∃ s, v.written = .ok s ∧ Number.IsVast s

def IsDouble (v : Value) : Prop := ∀ x, v = .float x → x.IsDouble

end Value

/-! ### Reading -/

namespace Number

theorem ofText?_spec (s : String) : (∀ n, ofText? s = some n → n.IsDouble) ∧
    ((∃ n, ofText? s = some n ∧ ¬ n.IsFinite) ↔ IsVast s) := by
  unfold ofText? IsVast
  dsimp only
  cases Numeral.int? (Text.trim s.toList) with
  | some k => simp [IsFinite, IsDouble]
  | none =>
      cases Decimal.ofText? (Text.trim s.toList) with
      | none => simp
      | some d =>
          cases d with
          | infinity negative => simp
          | nan negative signalling payload => simp
          | finite negative c e =>
              obtain ⟨hdouble, hfinite⟩ := Binary64.ofDecimal_spec negative c e
              constructor
              · intro n hn
                rw [← Option.some.inj hn]
                exact hdouble
              · simp [IsFinite, hfinite]

theorem written_spec (x : Except NumeralError String) :
    (∀ n, x.map ofText? = .ok (some n) → n.IsDouble) ∧
      ((∃ n, x.map ofText? = .ok (some n) ∧ ¬ n.IsFinite) ↔ ∃ s, x = .ok s ∧ IsVast s) := by
  cases x with
  | error e => simp [Except.map]
  | ok s => simpa [Except.map] using ofText?_spec s

/-- The operands that are read as a number without being a finite one. -/
theorem ofValue_spec (v : Value) :
    (∀ n, ofValue v = .ok (some n) → v.IsDouble → n.IsDouble) ∧
      ((∃ n, ofValue v = .ok (some n) ∧ ¬ n.IsFinite) ↔ v.IsBoundless) := by
  have hother : ∀ w : Value, (∀ n, w.written.map ofText? = .ok (some n) → w.IsDouble → n.IsDouble) ∧
      ((∃ n, w.written.map ofText? = .ok (some n) ∧ ¬ n.IsFinite) ↔
        ∃ s, w.written = .ok s ∧ IsVast s) :=
    fun w => ⟨fun n hn _ => (written_spec w.written).1 n hn, (written_spec w.written).2⟩
  cases v with
  | null | bool b => simp [ofValue, Value.IsBoundless]
  | int k => simp [ofValue, Value.IsBoundless, IsFinite, IsDouble]
  | decimal d => simp [ofValue, Value.IsBoundless, IsFinite, IsDouble]
  | float x =>
      cases hx : x.isFinite <;>
        simp [ofValue, Value.IsBoundless, Value.IsDouble, IsFinite, IsDouble, hx]
  | text s => exact hother (.text s)
  | dateTime t => exact hother (.dateTime t)
  | date d => exact hother (.date d)
  | tuple items => exact hother (.tuple items)
  | list items => exact hother (.list items)
  | record fields => exact hother (.record fields)

/-! ### Writing -/

theorem not_isNonFinite_of_text? {m : Int} {s : String} (h : Numeral.text? m = some s) :
    ¬ Decimal.IsNonFinite s := by
  have htext : s = Numeral.text m := by
    unfold Numeral.text? at h
    split at h
    · exact (Option.some.inj h).symm
    · cases h
  apply Decimal.not_isNonFinite_of_isFigure
  intro c hc
  rw [htext] at hc
  rcases Numeral.mem_text hc with rfl | hdigit
  · decide
  · exact Numeral.isFigure_of_isDigit hdigit

/-- A number that is moved by one at most has a numeral that is finite exactly if the number is. -/
theorem isNonFinite_shiftedText_iff {n : Number} {k : Int} {s : String} (hn : n.IsDouble)
    (hk : |k| ≤ 1) (hs : n.shiftedText k = .ok s) : Decimal.IsNonFinite s ↔ ¬ n.IsFinite := by
  unfold shiftedText at hs
  cases n with
  | int m =>
      dsimp only at hs
      cases htext : Numeral.text? (m + k) with
      | none => simp [htext] at hs
      | some t =>
          obtain rfl : t = s := by simpa [htext] using hs
          exact iff_of_false (not_isNonFinite_of_text? htext) (by simp [IsFinite])
  | float x =>
      obtain rfl : (x.addInt k).text = s := Except.ok.inj hs
      rw [Binary64.isNonFinite_text_iff, Binary64.isFinite_addInt hn hk]
      simp [IsFinite]
  | decimal d =>
      dsimp only at hs
      cases hsum : d.addInt k with
      | error e => cases e <;> simp [hsum] at hs
      | ok sum =>
          obtain rfl : sum.text = s := by simpa [hsum] using hs
          rw [Decimal.isNonFinite_text_iff, Decimal.isFinite_addInt hsum]
          simp [IsFinite]

end Number

theorem Operator.abs_shift_le (op : Operator) (i : Nat) : |op.shift i| ≤ 1 := by
  unfold shift
  split <;> decide

theorem Operator.abs_le_of_mem_moved {op : Operator} {values : List Value} {p : Value × Int}
    (hp : p ∈ op.moved values) : |p.2| ≤ 1 := by
  obtain ⟨i, hi, rfl⟩ := List.mem_mapIdx.mp hp
  exact op.abs_shift_le i

/-- An operand is read as a number that is not finite exactly if it is boundless, and then only is
the numeral that stands for it in a clause on numbers not a finite one. -/
theorem Value.isBoundless_iff (v : Value) :
    ((∃ n, Number.ofValue v = .ok (some n) ∧ ¬ n.IsFinite) ↔ v.IsBoundless) ∧
    (v.IsDouble → ∀ (c : Criterion) (clause : String), c.valueType = .number →
      c.clause? = .ok (some clause) →
        c.Names clause fun p s => p.1 = v → (Decimal.IsNonFinite s ↔ v.IsBoundless)) := by
  obtain ⟨hread, hiff⟩ := Number.ofValue_spec v
  refine ⟨hiff, fun hdouble c clause htype hclause => ?_⟩
  apply (Criterion.names_numerals htype hclause).imp
  rintro ⟨w, k⟩ hp s hs rfl
  obtain ⟨n, hn, hshifted⟩ := Clause.exists_number_of_numberText hs
  rw [Number.isNonFinite_shiftedText_iff (hread n hn hdouble) (Operator.abs_le_of_mem_moved hp)
    hshifted, ← hiff]
  simp [hn]

/-- A list of a great text, a binary number and a decimal. -/
def wideSizes : Criterion :=
  ⟨"size", .number, .isIn,
    [.text "1e308", .float (.finite false (5 * 2 ^ 50) (-51)), .decimal (.finite true 3 0)], .and⟩

theorem wideSizes_read : ∀ v ∈ wideSizes.values,
    v.IsDouble ∧ ∃ n, Number.ofValue v = .ok (some n) ∧ n.IsFinite := by
  have hgreat : Number.ofValue (.text "1e308") =
      .ok (some (.float (.finite false 5010420900022432 971))) := by decide +kernel
  rw [wideSizes, List.forall_mem_cons, List.forall_mem_cons, List.forall_mem_singleton]
  refine ⟨⟨fun x hx => ?_, _, hgreat, rfl⟩, ⟨fun x hx => ?_, _, rfl, rfl⟩,
    ⟨fun x hx => ?_, _, rfl, rfl⟩⟩
  · cases hx
  · cases hx
    exact ⟨by norm_num, by decide, by decide⟩
  · cases hx

theorem wideSizes_named : wideSizes.valueType = .number ∧
    wideSizes.clause? = .ok (some "size:(1e+308 OR 2.5 OR -3)") ∧
    ∀ v ∈ wideSizes.values, v.IsDouble ∧ ¬ v.IsBoundless ∧
      wideSizes.Names "size:(1e+308 OR 2.5 OR -3)" fun p s =>
        p.1 = v → ¬ Decimal.IsNonFinite s := by
  have hclause : wideSizes.clause? = .ok (some "size:(1e+308 OR 2.5 OR -3)") := by decide +kernel
  refine ⟨rfl, hclause, fun v hv => ?_⟩
  obtain ⟨hdouble, n, hn, hfinite⟩ := wideSizes_read v hv
  obtain ⟨hread, hnames⟩ := Value.isBoundless_iff v
  have hbounded : ¬ v.IsBoundless := by
    rw [← hread]
    rintro ⟨m, hm, hinfinite⟩
    rw [hn] at hm
    obtain rfl := Option.some.inj (Except.ok.inj hm)
    exact hinfinite hfinite
  refine ⟨hdouble, hbounded, ?_⟩
  apply (hnames hdouble wideSizes _ rfl hclause).imp
  intro p _ s hs hp
  rw [hs hp]
  exact hbounded

/-- A condition on a decimal that is not a number. -/
def notANumber : Criterion := ⟨"size", .number, .equal, [.decimal (.nan false false 0)], .and⟩

theorem notANumber_named :
    (¬ ∀ n, Number.ofValue (.text "1e400") = .ok (some n) → n.IsFinite) ∧
    notANumber.clause? = .ok (some "size:NaN") ∧
    ¬ notANumber.Names "size:NaN" fun _ s => ¬ Decimal.IsNonFinite s := by
  have hread : Number.ofValue (.text "1e400") = .ok (some (.float (.infinity false))) := by
    decide +kernel
  refine ⟨fun hall => absurd (hall _ hread) (by simp [Number.IsFinite, Binary64.isFinite]),
    by decide +kernel, ?_⟩
  rintro ⟨rule, ss, hprints, hfinite⟩
  have hnumerals := hprints.numerals rfl
  have hlist : notANumber.operator.moved notANumber.values =
      [(.decimal (.nan false false 0), 0)] := rfl
  rw [hlist] at hnumerals hfinite
  obtain _ | ⟨hs, -⟩ := hnumerals
  obtain _ | ⟨hd, -⟩ := hfinite
  obtain ⟨sum, hsum, rfl⟩ := Clause.numberText_decimal_iff.mp hs
  apply hd
  rw [Decimal.isNonFinite_text_iff, Decimal.isFinite_addInt hsum]
  rfl

end CriteriaSearch
