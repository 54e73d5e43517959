import CriteriaSearch.Proofs.Criteria.Selections
import CriteriaSearch.Proofs.Time.Reading

/-!
# Clauses on instants

The clause of an operator that compares instants is a range between stamps. It holds every
millisecond that the operator admits, and none that is 101 milliseconds or more beyond an operand:
bounds are moved by at most 100 milliseconds, and their stamps cut off less than one.
-/

namespace CriteriaSearch

open DateTime

/-! ### Terms -/

namespace Stamp

theorem IsStamp.mem {text : String} (h : IsStamp text) {c : Char} (hc : c ∈ text.toList) :
    c.isDigit = true ∨ c ∈ form.toList := by
  obtain ⟨mark, hmark, hfits⟩ := exists_of_forall₂_right h hc
  unfold Fits at hfits
  split at hfits
  · exact .inl hfits
  · exact .inr (hfits ▸ hmark)

theorem IsStamp.ne_of_mem {text : String} (h : IsStamp text) {c d : Char} (hc : c ∈ text.toList)
    (hdigit : d.isDigit = false) (hform : d ∉ form.toList) : c ≠ d := by
  rintro rfl
  rcases h.mem hc with hc | hc
  · exact Numeral.ne_of_isDigit hc hdigit rfl
  · exact hform hc

/-- The millisecond, counted from the start of year 1, that a text in the form of a stamp names. -/
def millis? (cs : List Char) : Option Int := (read? cs).map fun s => (s.millis : Int)

end Stamp

namespace DateTime

/-- An instant of the years 1000 to 9999. -/
def HasStamp (micros : Int) : Prop :=
  InCalendar micros ∧ 1000 ≤ (ofUniversal micros).date.year

theorem HasStamp.spells {n : Int} (h : HasStamp n) :
    Selection.Spells Stamp.millis? (ofUniversal n).stamp (n / 1000) := by
  obtain ⟨hcalendar, hyear⟩ := h
  have hbound := micros_ofUniversal_lt hcalendar
  have hform := (isStamp_stamp_iff hbound).mpr hyear
  have hmillis : (((ofUniversal n).micros / 1000 : Nat) : Int) = n / 1000 := by
    have hnat : ((ofUniversal n).micros : Int) = n := Int.toNat_of_nonneg hcalendar.1
    omega
  refine ⟨?_, fun hmem => ?_, fun c hc => ?_, fun hstar => ?_⟩
  · rw [Stamp.millis?, Stamp.stamp_eq_chars hbound hyear, Stamp.read?_chars, Option.map_some,
      Stamp.millis_ofTime, hmillis]
  · exact hform.ne_of_mem hmem (d := ' ') (by decide) (by decide) rfl
  · have hmem := List.mem_of_mem_head? hc
    exact ⟨hform.ne_of_mem hmem (by decide) (by decide),
      hform.ne_of_mem hmem (by decide) (by decide)⟩
  · have hmem : '*' ∈ (ofUniversal n).stamp.toList := hstar ▸ List.mem_cons_self
    exact hform.ne_of_mem hmem (d := '*') (by decide) (by decide) rfl

end DateTime

/-! ### Operands -/

/-- A value that is read as a time at an instant of the calendar. -/
def Value.Denotes (v : Value) (n : Int) : Prop :=
  InCalendar n ∧ ∃ t, ofValue? v = some t ∧ t.universal = n

namespace Value.Denotes

variable {v : Value} {n : Int}

theorem isNull_eq_false (h : v.Denotes n) : v.isNull = false := by
  obtain ⟨-, t, ht, -⟩ := h
  cases v with
  | null => cases ht
  | _ => rfl

theorem instantText_eq (h : v.Denotes n) {shift : Int}
    (hmoved : InCalendar (n + shift * Clause.instantUnit)) :
    Clause.instantText v shift =
      .ok (some (ofUniversal (n + shift * Clause.instantUnit)).stamp) := by
  obtain ⟨hcalendar, t, ht, rfl⟩ := h
  have hnat : ((t.universal.toNat : Nat) : Int) = t.universal := Int.toNat_of_nonneg hcalendar.1
  simp only [Clause.instantText, instantOf, ht, toUniversal?_eq_some hcalendar, add?, hnat,
    instant?_eq_some hmoved, Option.map_some, ofUniversal]

end Value.Denotes

/-! ### Operators -/

namespace Operator

/-- A comparison whose clause on instants is a range, with its operands. -/
inductive Ranges : Operator → List Int → Prop
  | greater (v : Int) : Ranges .greater [v]
  | greaterEqual (v : Int) : Ranges .greaterEqual [v]
  | less (v : Int) : Ranges .less [v]
  | lessEqual (v : Int) : Ranges .lessEqual [v]
  | between (v w : Int) : Ranges .between [v, w]
  | within (v w : Int) : Ranges .within [v, w]

/-- The operands below and above the values that a comparison admits. -/
def ends : Operator → List Int → Option Int × Option Int
  | .greater, [v] | .greaterEqual, [v] => (some v, none)
  | .less, [v] | .lessEqual, [v] => (none, some v)
  | .between, [v, w] | .within, [v, w] => (some v, some w)
  | _, _ => (none, none)

/-- How far the clause of a comparison goes beyond its operands. -/
def widening : Operator → Int
  | .greaterEqual | .lessEqual | .within => Clause.instantUnit
  | _ => 0

def window (op : Operator) (ns : List Int) : Option Int × Option Int :=
  ((op.ends ns).1.map (· - op.widening), (op.ends ns).2.map (· + op.widening))

theorem widening_le (op : Operator) : 0 ≤ op.widening ∧ op.widening ≤ 100000 := by
  unfold widening
  split <;> decide

namespace Ranges

variable {op : Operator} {ns : List Int}

theorem between_of_admits (h : op.Ranges ns) {x : Int} (hx : op.Admits 0 ns x) :
    (∀ v ∈ (op.ends ns).1, v ≤ x) ∧ ∀ w ∈ (op.ends ns).2, x ≤ w := by
  cases h <;> simp [Admits, ends] at hx ⊢ <;> omega

/-- The range holds what is admitted: its bounds are at or beyond the operands, and cutting them off
to milliseconds does not pass a whole millisecond. -/
theorem contains_of_admits (h : op.Ranges ns) {x : Int} (hx : op.Admits 0 ns (x * 1000)) :
    (Selection.range ((op.window ns).1.map (· / 1000)) ((op.window ns).2.map (· / 1000))).Contains
      x := by
  obtain ⟨hlow, hhigh⟩ := h.between_of_admits hx
  have hwidening := op.widening_le.1
  constructor
  · intro a ha
    obtain ⟨v, hv, rfl⟩ : ∃ v ∈ (op.ends ns).1, (v - op.widening) / 1000 = a := by
      simpa [window] using ha
    have hle := hlow v hv
    omega
  · intro b hb
    obtain ⟨w, hw, rfl⟩ : ∃ w ∈ (op.ends ns).2, (w + op.widening) / 1000 = b := by
      simpa [window] using hb
    have hle := hhigh w hw
    omega

end Ranges

theorem near_of_contains {op : Operator} {ns : List Int} {x : Int}
    (hx : (Selection.range ((op.window ns).1.map (· / 1000))
      ((op.window ns).2.map (· / 1000))).Contains x) :
    (∀ v ∈ (op.ends ns).1, v - 101000 < x * 1000) ∧
      ∀ w ∈ (op.ends ns).2, x * 1000 < w + 101000 := by
  obtain ⟨hlow, hhigh⟩ := hx
  have hwidening := op.widening_le.2
  constructor
  · intro v hv
    have hle := hlow ((v - op.widening) / 1000) (by simp [window, Option.mem_def.mp hv])
    omega
  · intro w hw
    have hle := hhigh ((w + op.widening) / 1000) (by simp [window, Option.mem_def.mp hw])
    omega

end Operator

/-! ### Clauses -/

namespace Operator.Ranges

variable {op : Operator} {ns : List Int}

theorem exists_rule (h : op.Ranges ns) : ∃ rule, ClauseRule.find? .dateTime op = some rule ∧
    rule.negated = false ∧ rule.form.isRange = true ∧ rule.form.IsBare := by
  cases h <;> exact ⟨_, rfl, rfl, rfl, trivial⟩

theorem ne_nil (h : op.Ranges ns) : ns ≠ [] := by
  cases h <;> exact List.cons_ne_nil _ _

theorem arity_eq (h : op.Ranges ns) : op.arity = some ns.length := by
  cases h <;> rfl

theorem named_eq {rule : ClauseRule} (h : op.Ranges ns)
    (hrule : ClauseRule.find? .dateTime op = some rule) :
    rule.form.named Clause.instantUnit ns = (op.window ns).1.toList ++ (op.window ns).2.toList := by
  cases h <;> cases hrule <;>
    simp [ClauseForm.named, window, ends, widening, Int.sub_eq_add_neg]

theorem select_eq {rule : ClauseRule} (h : op.Ranges ns)
    (hrule : ClauseRule.find? .dateTime op = some rule) :
    rule.form.select ((rule.form.named Clause.instantUnit ns).map (· / 1000)) =
      .range ((op.window ns).1.map (· / 1000)) ((op.window ns).2.map (· / 1000)) := by
  cases h <;> cases hrule <;>
    simp [ClauseForm.named, ClauseForm.select, window, ends, widening, Int.sub_eq_add_neg]

theorem clause?_read (h : op.Ranges ns) (hlow : ∀ b ∈ (op.window ns).1, HasStamp b)
    (hhigh : ∀ b ∈ (op.window ns).2, HasStamp b) (field : String) (how : Conjunction)
    {rule : ClauseRule} (hrule : ClauseRule.find? .dateTime op = some rule)
    (hrange : rule.form.isRange = true) (hbare : rule.form.IsBare) {values : List Value}
    (hvalues : List.Forall₂ Value.Denotes values ns) :
    let clause := rule.print field
      ((rule.form.named Clause.instantUnit ns).map fun b => (ofUniversal b).stamp)
    Criterion.clause? ⟨field, .dateTime, op, values, how⟩ = .ok (some clause) ∧
      Selection.ofClause? Stamp.millis? field clause = some (rule.negated,
        .range ((op.window ns).1.map (· / 1000)) ((op.window ns).2.map (· / 1000))) := by
  obtain ⟨hnonempty, hpresent, harity⟩ :=
    ClauseRule.operands_present Value.Denotes.isNull_eq_false hrule hvalues h.ne_nil
      fun k hk => Option.some.inj (h.arity_eq.symm.trans hk)
  have hstamps : ∀ b ∈ rule.form.named Clause.instantUnit ns, HasStamp b := by
    rw [h.named_eq hrule]
    intro b hb
    rcases List.mem_append.mp hb with hb | hb
    · exact hlow b (Option.mem_toList.mp hb)
    · exact hhigh b (Option.mem_toList.mp hb)
  have hwritten : Clause.Written .dateTime rule.form values
      ((rule.form.named Clause.instantUnit ns).map fun b => (ofUniversal b).stamp) := by
    have hnamed := ClauseForm.forall₂_consumed hvalues harity Clause.instantUnit
    refine List.forall₂_map_right_iff.mpr (forall₂_imp_of_mem hnamed ?_)
    rintro p - b hb ⟨n, hn, rfl⟩
    rw [Clause.operandText, if_pos hrange]
    exact hn.instantText_eq (hstamps _ hb).1
  have hspells : List.Forall₂ (Selection.Spells Stamp.millis?)
      ((rule.form.named Clause.instantUnit ns).map fun b => (ofUniversal b).stamp)
      ((rule.form.named Clause.instantUnit ns).map (· / 1000)) :=
    List.forall₂_map_left_iff.mpr (List.forall₂_map_right_iff.mpr
      (List.forall₂_same.mpr fun b hb => (hstamps b hb).spells))
  rw [← h.select_eq hrule]
  exact Clause.clause?_read (c := ⟨field, .dateTime, op, values, how⟩) hrule hbare hnonempty
    hpresent harity hwritten hspells

end Operator.Ranges

/-- A comparison with instants has a clause that depends on nothing but the instants. It is a range
that holds every millisecond which the comparison admits, and only such as are less than 101
milliseconds beyond its operands. -/
theorem Operator.range_near_operands {op : Operator} {ns : List Int} (h : op.Ranges ns)
    (hlow : ∀ b ∈ (op.window ns).1, HasStamp b) (hhigh : ∀ b ∈ (op.window ns).2, HasStamp b)
    {values : List Value} (hvalues : List.Forall₂ Value.Denotes values ns) (field : String)
    (how : Conjunction) :
    ∃ clause low high,
      Criterion.clause? ⟨field, .dateTime, op, values, how⟩ = .ok (some clause) ∧
      (∀ values', List.Forall₂ Value.Denotes values' ns →
        Criterion.clause? ⟨field, .dateTime, op, values', how⟩ = .ok (some clause)) ∧
      Selection.ofClause? Stamp.millis? field clause = some (false, .range low high) ∧
      (∀ x, op.Admits 0 ns (x * 1000) → (Selection.range low high).Contains x) ∧
      ∀ x, (Selection.range low high).Contains x →
        (∀ v ∈ (op.ends ns).1, v - 101000 < x * 1000) ∧
        ∀ w ∈ (op.ends ns).2, x * 1000 < w + 101000 := by
  obtain ⟨rule, hrule, hasked, hrange, hbare⟩ := h.exists_rule
  have hread := fun values (hvalues : List.Forall₂ Value.Denotes values ns) =>
    h.clause?_read hlow hhigh field how hrule hrange hbare hvalues
  rw [hasked] at hread
  exact ⟨_, _, _, (hread values hvalues).1, fun values' hvalues' => (hread values' hvalues').1,
    (hread values hvalues).2, fun x => h.contains_of_admits, fun x => Operator.near_of_contains⟩

/-- Half a millisecond after the year 2000 began, and a day after that. -/
def newYear : List Int := [63082281600000500, 63082368000000000]

theorem newYear_near :
    Operator.within.Ranges newYear ∧
    (∀ b ∈ (Operator.within.window newYear).1, HasStamp b) ∧
    (∀ b ∈ (Operator.within.window newYear).2, HasStamp b) ∧
    List.Forall₂ Value.Denotes
      [.text "2000-01-01T02:00:00.0005+02:00", .text "Jan-02-2000 00:00:00"] newYear ∧
    Criterion.clause? ⟨"released", .dateTime, .within,
        [.text "2000-01-01T02:00:00.0005+02:00", .text "Jan-02-2000 00:00:00"], .and⟩ =
      .ok (some "released:[1999-12-31T23:59:59.900Z TO 2000-01-02T00:00:00.100Z]") ∧
    ∃ low high,
      Selection.ofClause? Stamp.millis? "released"
        "released:[1999-12-31T23:59:59.900Z TO 2000-01-02T00:00:00.100Z]" =
          some (false, .range low high) ∧
      (∀ x, Operator.within.Admits 0 newYear (x * 1000) →
        (Selection.range low high).Contains x) ∧
      ∀ x, (Selection.range low high).Contains x →
        (∀ v ∈ (Operator.within.ends newYear).1, v - 101000 < x * 1000) ∧
        ∀ w ∈ (Operator.within.ends newYear).2, x * 1000 < w + 101000 := by
  have hranges : Operator.within.Ranges newYear := .within _ _
  have hlow : ∀ b ∈ (Operator.within.window newYear).1, HasStamp b := by
    intro b hb
    obtain rfl := Option.some.inj hb
    exact ⟨⟨by decide +kernel, by decide +kernel⟩, by decide +kernel⟩
  have hhigh : ∀ b ∈ (Operator.within.window newYear).2, HasStamp b := by
    intro b hb
    obtain rfl := Option.some.inj hb
    exact ⟨⟨by decide +kernel, by decide +kernel⟩, by decide +kernel⟩
  have hvalues : List.Forall₂ Value.Denotes
      [.text "2000-01-01T02:00:00.0005+02:00", .text "Jan-02-2000 00:00:00"] newYear := by
    refine .cons ⟨⟨by decide +kernel, by decide +kernel⟩,
      ⟨63082288800000500, some 7200000000⟩, by decide +kernel, by decide +kernel⟩ (.cons ?_ .nil)
    exact ⟨⟨by decide +kernel, by decide +kernel⟩, ⟨63082368000000000, none⟩, by decide +kernel,
      by decide +kernel⟩
  have hclause : Criterion.clause? ⟨"released", .dateTime, .within,
        [.text "2000-01-01T02:00:00.0005+02:00", .text "Jan-02-2000 00:00:00"], .and⟩ =
      .ok (some "released:[1999-12-31T23:59:59.900Z TO 2000-01-02T00:00:00.100Z]") := by
    decide +kernel
  obtain ⟨clause, low, high, hsome, -, hread, hadmitted, hnear⟩ :=
    Operator.range_near_operands hranges hlow hhigh hvalues "released" .and
  obtain rfl := Option.some.inj (Except.ok.inj (hsome.symm.trans hclause))
  exact ⟨hranges, hlow, hhigh, hvalues, hclause, low, high, hread, hadmitted, hnear⟩

end CriteriaSearch
