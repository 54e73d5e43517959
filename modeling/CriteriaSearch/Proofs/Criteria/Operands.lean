import CriteriaSearch.Proofs.Criteria.Selections

/-!
# Operands in a clause

An operator consumes the first operand, both bounds of a range, or all members of a list. A
condition whose operator is supported for its type, and whose consumed operands are all there and
can be read, has a clause with their texts in it, and no other condition has one. Lists of texts
are the exception: null is written among their members like a text.
-/

namespace CriteriaSearch

namespace Operator

/-- The operands that an operator consumes. -/
def consumed (op : Operator) (values : List Value) : List Value :=
  match op.arity with
  | none => values
  | some n => values.take n

/-- Two operands for a range, and one at least for any other operator. -/
def IsServed (op : Operator) (values : List Value) : Prop :=
  if op.arity = some 2 then values.length = 2 else values ≠ []

end Operator

/-! ### Supported operators -/

theorem ClauseRule.mem_known {t : ValueType} {op : Operator} {rule : ClauseRule}
    (hrule : find? t op = some rule) : op ∈ Operator.known ∧ op ≠ .sort := by
  cases t with
  | other name => cases hrule
  | text => cases op <;> cases hrule <;> decide
  | number => cases op <;> cases hrule <;> decide
  | dateTime => cases op <;> cases hrule <;> decide
  | boolean => cases op <;> cases hrule <;> decide

theorem exists_rule_iff {t : ValueType} {op : Operator} :
    (∃ rule, ClauseRule.find? t op = some rule) ↔ op ∈ supportedOperators t ∧ op ≠ .sort := by
  rw [supportedOperators, List.mem_filter, Bool.or_eq_true, beq_iff_eq, Option.isSome_iff_exists]
  constructor
  · rintro ⟨rule, hrule⟩
    obtain ⟨hknown, hsort⟩ := ClauseRule.mem_known hrule
    exact ⟨⟨hknown, .inr ⟨rule, hrule⟩⟩, hsort⟩
  · rintro ⟨⟨-, hsort | hrule⟩, hne⟩
    · exact absurd hsort hne
    · exact hrule

/-! ### Operands of rules -/

section Rule

variable {t : ValueType} {op : Operator} {rule : ClauseRule} {values : List Value}

theorem ClauseRule.map_fst_consumed (hrule : find? t op = some rule)
    (hfilled : rule.form.isFilled values = true) :
    (rule.form.consumed values).map Prod.fst = op.consumed values := by
  have harity := arity_form hrule
  unfold Operator.consumed
  rw [← harity]
  cases hform : rule.form with
  | anyOf => simp [ClauseForm.consumed, ClauseForm.arity, Function.comp_def]
  | range low high =>
      rw [hform] at hfilled
      obtain ⟨v, w, rfl⟩ := List.length_eq_two.mp (by simpa [ClauseForm.isFilled] using hfilled)
      rfl
  | single before after | atLeast shift | atMost shift =>
      rw [hform] at hfilled
      obtain ⟨v, vs, rfl, -⟩ := Clause.exists_head_of_isFilled hfilled
      simp [ClauseForm.consumed, ClauseForm.arity]

/-- Where null is ruled out, a rule finds no operand missing exactly if there are enough. -/
theorem ClauseRule.isFilled_iff_isServed (hrule : find? t op = some rule)
    (hpresent : ∀ v ∈ op.consumed values, v.isNull = false) :
    rule.form.isFilled values = true ↔ op.IsServed values := by
  have harity := arity_form hrule
  unfold Operator.IsServed
  unfold Operator.consumed at hpresent
  rw [← harity] at hpresent ⊢
  cases hform : rule.form with
  | anyOf => simp [ClauseForm.isFilled, ClauseForm.arity]
  | range low high => simp [ClauseForm.isFilled, ClauseForm.arity]
  | single before after | atLeast shift | atMost shift =>
      rw [hform] at hpresent
      cases values with
      | nil => simp [ClauseForm.isFilled, ClauseForm.arity, Value.isNull]
      | cons v vs =>
          have hv : v.isNull = false := hpresent v List.mem_cons_self
          simp [ClauseForm.isFilled, ClauseForm.arity, hv]

end Rule

/-! ### Texts of operands -/

theorem Clause.operandText_settled {t : ValueType} {form : ClauseForm} {values : List Value}
    (hrange : form.isRange = true → t = .number ∨ t = .dateTime) {p : Value × Int}
    (hp : p ∈ form.consumed values) :
    Settled (p.1.Strains p.2 t) (p.1.isReadable t = true) (operandText t form p) := by
  unfold operandText
  cases form with
  | anyOf =>
      obtain ⟨v, -, rfl⟩ := List.mem_map.mp hp
      exact termText_settled t v
  | single before after =>
      cases values with
      | nil => cases hp
      | cons v vs =>
          obtain rfl := List.mem_singleton.mp hp
          exact termText_settled t v
  | atLeast shift => exact boundText_settled (hrange rfl) p.1 p.2
  | atMost shift => exact boundText_settled (hrange rfl) p.1 p.2
  | range low high => exact boundText_settled (hrange rfl) p.1 p.2

namespace Criterion

theorem isMeaningful_iff (c : Criterion) : c.isMeaningful = true ↔
    ∃ rule, ClauseRule.find? c.valueType c.operator = some rule ∧
      rule.form.isFilled c.values = true ∧
        ∀ p ∈ rule.form.consumed c.values, p.1.isReadable c.valueType = true := by
  unfold isMeaningful
  cases ClauseRule.find? c.valueType c.operator <;> simp

/-- A clause of a condition with the texts that stand in it for the operands. -/
structure Prints (c : Criterion) (clause : String) (rule : ClauseRule) (ss : List String) :
    Prop where
  rule_eq : ClauseRule.find? c.valueType c.operator = some rule
  filled : rule.form.isFilled c.values = true
  written : Clause.Written c.valueType rule.form c.values ss
  clause_eq : clause = rule.print c.field ss

theorem exists_prints {c : Criterion} {clause : String} (h : c.clause? = .ok (some clause)) :
    ∃ rule ss, c.Prints clause rule ss := by
  obtain ⟨hmeaningful, hplain⟩ := c.has_clause_iff.mp ⟨clause, h⟩
  obtain ⟨rule, hrule, hfilled, hreadable⟩ := c.isMeaningful_iff.mp hmeaningful
  have htexts : ∀ p ∈ rule.form.consumed c.values,
      ∃ s, Clause.operandText c.valueType rule.form p = .ok (some s) := by
    intro p hp
    have hsettled := Clause.operandText_settled (ClauseRule.eq_of_isRange hrule) hp
    exact hsettled.some_iff.mpr ⟨hreadable p hp, fun hs => hplain ⟨rule, hrule, p, hp, hs⟩⟩
  obtain ⟨ss, hwritten⟩ := exists_forall₂_of_forall htexts
  have hclause := Clause.clause?_eq_lead hrule (Clause.body_eq_print hfilled hwritten)
  rw [h] at hclause
  exact ⟨rule, ss, hrule, hfilled, hwritten, Option.some.inj (Except.ok.inj hclause)⟩

/-! ### Well-posed conditions -/

/-- A condition with a supported operator that has enough operands, of which those that it consumes
are not null and can be read as values of the type. -/
structure IsWellPosed (c : Criterion) : Prop where
  supported : c.operator ∈ supportedOperators c.valueType
  ne_sort : c.operator ≠ .sort
  served : c.operator.IsServed c.values
  operands : ∀ v ∈ c.operator.consumed c.values,
    v.isNull = false ∧ v.isReadable c.valueType = true

theorem isWellPosed_iff (c : Criterion) : c.IsWellPosed ↔
    c.isMeaningful = true ∧ ∀ v ∈ c.operator.consumed c.values, v.isNull = false := by
  rw [isMeaningful_iff]
  constructor
  · intro h
    have hpresent : ∀ v ∈ c.operator.consumed c.values, v.isNull = false :=
      fun v hv => (h.operands v hv).1
    obtain ⟨rule, hrule⟩ := exists_rule_iff.mpr ⟨h.supported, h.ne_sort⟩
    have hfilled := (ClauseRule.isFilled_iff_isServed hrule hpresent).mpr h.served
    refine ⟨⟨rule, hrule, hfilled, fun p hp => ?_⟩, hpresent⟩
    apply And.right
    apply h.operands
    rw [← ClauseRule.map_fst_consumed hrule hfilled]
    exact List.mem_map_of_mem hp
  · rintro ⟨⟨rule, hrule, hfilled, hreadable⟩, hpresent⟩
    obtain ⟨hsupported, hsort⟩ := exists_rule_iff.mp ⟨rule, hrule⟩
    have hserved := (ClauseRule.isFilled_iff_isServed hrule hpresent).mp hfilled
    refine ⟨hsupported, hsort, hserved, fun v hv => ⟨hpresent v hv, ?_⟩⟩
    rw [← ClauseRule.map_fst_consumed hrule hfilled] at hv
    obtain ⟨p, hp, rfl⟩ := List.mem_map.mp hv
    exact hreadable p hp

/-- A clause is there exactly if the condition is well posed, and no text in it stands for null. -/
def HasClauseAsPosed (c : Criterion) : Prop :=
  ((∃ clause, c.clause? = .ok (some clause)) ↔ c.IsWellPosed) ∧
    ∀ clause, c.clause? = .ok (some clause) → ∃ rule ss, c.Prints clause rule ss ∧
      ∀ p ∈ rule.form.consumed c.values, p.1.isNull = false

/-- A list of texts with null among its members. -/
def ListsNull (c : Criterion) : Prop :=
  c.valueType = .text ∧ (c.operator = .isIn ∨ c.operator = .notIn) ∧
    ∃ v ∈ c.values, v.isNull = true

theorem isReadable_null {t : ValueType} {v : Value} (hnull : v.isNull = true)
    (hreadable : v.isReadable t = true) : t = .text := by
  cases v with
  | null =>
      cases t with
      | text => rfl
      | number | dateTime | boolean => exact absurd hreadable (by decide)
      | other name => cases hreadable
  | _ => cases hnull

theorem eq_anyOf_of_null {form : ClauseForm} {values : List Value} {p : Value × Int}
    (hfilled : form.isFilled values = true) (hp : p ∈ form.consumed values)
    (hnull : p.1.isNull = true) (hrange : form.isRange = false) : form = .anyOf := by
  cases form with
  | anyOf => rfl
  | single before after =>
      obtain ⟨v, vs, rfl, hv⟩ := Clause.exists_head_of_isFilled hfilled
      obtain rfl := List.mem_singleton.mp hp
      rw [hv] at hnull
      cases hnull
  | atLeast shift | atMost shift | range low high => cases hrange

/-- Only lists of texts take null for an operand. -/
theorem listsNull_iff (c : Criterion) : c.ListsNull ↔
    c.isMeaningful = true ∧ ∃ v ∈ c.operator.consumed c.values, v.isNull = true := by
  constructor
  · rintro ⟨htext, hlist, v, hv, hnull⟩
    have hrule : ∃ negated, ClauseRule.find? c.valueType c.operator = some ⟨negated, .anyOf⟩ := by
      rw [htext]
      rcases hlist with hop | hop <;> rw [hop] <;> exact ⟨_, rfl⟩
    obtain ⟨negated, hrule⟩ := hrule
    have hfilled : (ClauseForm.anyOf).isFilled c.values = true := by
      simp [ClauseForm.isFilled, List.ne_nil_of_mem hv]
    refine ⟨c.isMeaningful_iff.mpr ⟨_, hrule, hfilled, fun p _ => ?_⟩, v, ?_, hnull⟩
    · rw [htext]
      rfl
    · rw [← ClauseRule.map_fst_consumed hrule hfilled]
      simpa [ClauseForm.consumed] using hv
  · rintro ⟨hmeaningful, v, hv, hnull⟩
    obtain ⟨rule, hrule, hfilled, hreadable⟩ := c.isMeaningful_iff.mp hmeaningful
    rw [← ClauseRule.map_fst_consumed hrule hfilled] at hv
    obtain ⟨p, hp, rfl⟩ := List.mem_map.mp hv
    have htext := isReadable_null hnull (hreadable p hp)
    have hrange : rule.form.isRange = false := by
      apply Bool.eq_false_iff.mpr
      intro h
      have htype := ClauseRule.eq_of_isRange hrule h
      rw [htext] at htype
      rcases htype with h' | h' <;> cases h'
    have hform := eq_anyOf_of_null hfilled hp hnull hrange
    refine ⟨htext, ?_, p.1, ?_, hnull⟩
    · rw [htext] at hrule
      cases hop : c.operator <;> rw [hop] at hrule <;> cases hrule <;>
        first | exact .inl rfl | exact .inr rfl | cases hform
    · rw [hform] at hp
      obtain ⟨w, hw, rfl⟩ := List.mem_map.mp hp
      exact hw

/-- A condition whose clause can be written has one as it is posed, unless it lists null among
texts. -/
theorem hasClauseAsPosed_iff {c : Criterion} (hwritten : ∀ e, c.clause? ≠ .error e) :
    c.HasClauseAsPosed ↔ ¬ c.ListsNull := by
  have hplain : ¬ c.IsStrained := by
    intro hstrained
    obtain ⟨e, he⟩ := c.clause?_fails_iff.mpr hstrained
    exact hwritten e he
  have hclause : (∃ clause, c.clause? = .ok (some clause)) ↔ c.isMeaningful = true := by
    rw [has_clause_iff, and_iff_left hplain]
  rw [listsNull_iff]
  constructor
  · rintro ⟨hposed, -⟩ ⟨hmeaningful, v, hv, hnull⟩
    rw [hclause, isWellPosed_iff] at hposed
    have hpresent := (hposed.mp hmeaningful).2 v hv
    rw [hpresent] at hnull
    cases hnull
  · intro hlists
    have hpresent : c.isMeaningful = true →
        ∀ v ∈ c.operator.consumed c.values, v.isNull = false := by
      intro hmeaningful v hv
      apply Bool.eq_false_iff.mpr
      exact fun hnull => hlists ⟨hmeaningful, v, hv, hnull⟩
    constructor
    · rw [hclause, isWellPosed_iff]
      exact ⟨fun h => ⟨h, hpresent h⟩, And.left⟩
    · intro clause h
      obtain ⟨rule, ss, hprints⟩ := exists_prints h
      refine ⟨rule, ss, hprints, fun p hp => hpresent (hclause.mp ⟨clause, h⟩) p.1 ?_⟩
      rw [← ClauseRule.map_fst_consumed hprints.rule_eq hprints.filled]
      exact List.mem_map_of_mem hp

/-- Texts and a number in a list, without null. -/
def mixedTitles : Criterion := ⟨"title", .text, .isIn, [.text "a b", .int 7], .and⟩

theorem mixedTitles_hasClauseAsPosed :
    (∀ e, mixedTitles.clause? ≠ .error e) ∧ ¬ mixedTitles.ListsNull ∧
      mixedTitles.HasClauseAsPosed := by
  have hclause : mixedTitles.clause? = .ok (some "title:(\"a b\" OR 7)") := by decide +kernel
  have hwritten : ∀ e, mixedTitles.clause? ≠ .error e := by
    intro e he
    rw [hclause] at he
    cases he
  have hlists : ¬ mixedTitles.ListsNull := by
    rintro ⟨-, -, hnull⟩
    exact absurd hnull (by simp [mixedTitles, Value.isNull])
  exact ⟨hwritten, hlists, (hasClauseAsPosed_iff hwritten).mpr hlists⟩

/-- A list of texts in which null stands. -/
def gappyTitles : Criterion := ⟨"title", .text, .isIn, [.text "a", .null], .and⟩

theorem gappyTitles_list_null :
    gappyTitles.clause? = .ok (some "title:(a OR None)") ∧ ¬ gappyTitles.HasClauseAsPosed := by
  have hclause : gappyTitles.clause? = .ok (some "title:(a OR None)") := by decide +kernel
  refine ⟨hclause, fun hposed => ?_⟩
  have hnull := (hposed.1.mp ⟨_, hclause⟩).operands .null (by simp [gappyTitles, Operator.consumed,
    Operator.arity])
  cases hnull.1

end Criterion

end CriteriaSearch
