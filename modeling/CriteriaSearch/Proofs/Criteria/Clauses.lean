import CriteriaSearch.Criteria.Clause
import Mathlib.Data.List.Basic

/-!
# When a condition has a clause

A clause is made of some of the operands of its condition: the first one, both bounds of a range, or
all members of a list. It is there exactly if the operator is one for the value type, no operand is
missing, and all operands that it is made of can be read. Making it fails exactly if one of them
can be read but not be written.
-/

namespace CriteriaSearch

/-! ### Operands -/

/-- A number without a numeral after it was moved. -/
def Number.Overflows (shift : Int) : Number → Prop
  | .int n => Numeral.maxDigits < Numeral.width (n + shift).natAbs
  | .float _ => False
  | .decimal d => ∃ e, d.addInt shift = .error e

namespace DateTime

/-- Microseconds since the start of year 1 in universal time; they may be outside the calendar. -/
def universal (t : DateTime) : Int := t.micros - t.offset.getD 0

/-- A count of microseconds that is in the years 1 to 9999. -/
def InCalendar (micros : Int) : Prop := 0 ≤ micros ∧ micros < bound

/-- A time that leaves the calendar in universal time, or when it is moved from there. -/
def Leaves (shift : Int) (t : DateTime) : Prop :=
  ¬ (InCalendar t.universal ∧ InCalendar (t.universal + shift * Clause.instantUnit))

theorem instant?_eq_some {micros : Int} (h : InCalendar micros) :
    instant? micros = some micros.toNat := if_pos h

theorem instant?_eq_none {micros : Int} (h : ¬ InCalendar micros) : instant? micros = none :=
  if_neg h

theorem toUniversal?_eq_some {t : DateTime} (h : InCalendar t.universal) :
    t.toUniversal? = some ⟨t.universal.toNat, some 0⟩ := by
  rw [toUniversal?, ← universal, instant?_eq_some h]
  rfl

theorem toUniversal?_eq_none {t : DateTime} (h : ¬ InCalendar t.universal) :
    t.toUniversal? = none := by
  rw [toUniversal?, ← universal, instant?_eq_none h]
  rfl

end DateTime

namespace Value

/-- Whether an operand can be read as a value of a type. -/
def isReadable : ValueType → Value → Bool
  | .text, _ => true
  | .number, v => (Number.ofValue v).toOption.join.isSome
  | .dateTime, v => (DateTime.ofValue? v).isSome
  | .boolean, .bool _ => true
  | .boolean, v =>
    let word := Text.trim v.toText.toList
    Text.isWord "true" word || Text.isWord "false" word
  | .other _, _ => false

/-- An operand that has no text after it was moved: a number with too many digits, a time outside
the calendar, or a value with such a number in it. -/
def Strains (shift : Int) : ValueType → Value → Prop
  | .text, v => v.isWritable = false
  | .number, v =>
    match Number.ofValue v with
    | .error _ => True
    | .ok none => False
    | .ok (some n) => n.Overflows shift
  | .dateTime, v => ∃ t, DateTime.ofValue? v = some t ∧ t.Leaves shift
  | .boolean, v => v.isWritable = false
  | .other _, _ => False

end Value

/-! ### Operands of a form -/

namespace ClauseForm

/-- The operands that a clause is made of, with the shift of each. -/
def consumed : ClauseForm → List Value → List (Value × Int)
  | .anyOf, values => values.map fun v => (v, 0)
  | .single _ _, v :: _ => [(v, 0)]
  | .atLeast shift, v :: _ => [(v, shift)]
  | .atMost shift, v :: _ => [(v, shift)]
  | .range low high, [v, w] => [(v, low), (w, high)]
  | _, _ => []

/-- Whether no operand is missing. -/
def isFilled : ClauseForm → List Value → Bool
  | .anyOf, values => !values.isEmpty
  | .range _ _, values => values.length == 2
  | _, values => !(values.head?.getD .null).isNull

def isRange : ClauseForm → Bool
  | .single _ _ => false
  | .anyOf => false
  | _ => true

end ClauseForm

/-- Only numbers and instants have ranges. -/
theorem ClauseRule.eq_of_isRange {t : ValueType} {op : Operator} {rule : ClauseRule}
    (hrule : find? t op = some rule) (hrange : rule.form.isRange = true) :
    t = .number ∨ t = .dateTime := by
  cases t with
  | number => exact .inl rfl
  | dateTime => exact .inr rfl
  | other name => cases hrule
  | text => cases op <;> cases hrule <;> cases hrange
  | boolean => cases op <;> cases hrule <;> cases hrange

/-! ### Numbers of operands -/

/-- How many operands an operator takes, unless it takes any number. -/
def Operator.arity : Operator → Option Nat
  | .isIn | .notIn => none
  | .between | .notBetween | .within => some 2
  | _ => some 1

/-- How many operands a clause is made of, unless it is made of any number. -/
def ClauseForm.arity : ClauseForm → Option Nat
  | .anyOf => none
  | .range _ _ => some 2
  | _ => some 1

theorem ClauseRule.arity_form {t : ValueType} {op : Operator} {rule : ClauseRule}
    (hrule : find? t op = some rule) : rule.form.arity = op.arity := by
  cases t with
  | other name => cases hrule
  | text => cases op <;> cases hrule <;> rfl
  | number => cases op <;> cases hrule <;> rfl
  | dateTime => cases op <;> cases hrule <;> rfl
  | boolean => cases op <;> cases hrule <;> rfl

/-- A clause of a form is made of all operands if their number is right. -/
theorem ClauseForm.consumed_of_arity {form : ClauseForm} {values : List Value} (hne : values ≠ [])
    (hpresent : ∀ v ∈ values, v.isNull = false)
    (harity : ∀ n, form.arity = some n → values.length = n) :
    form.isFilled values = true ∧ (form.consumed values).map Prod.fst = values := by
  obtain ⟨v, vs, rfl⟩ := List.exists_cons_of_ne_nil hne
  -- Only the forms with one operand ask for it to be present.
  have hv : v.isNull = false := hpresent v List.mem_cons_self
  cases form with
  | anyOf => exact ⟨rfl, by simp [consumed, Function.comp_def]⟩
  | range low high =>
      obtain ⟨a, b, hab⟩ := List.length_eq_two.mp (harity 2 rfl)
      rw [hab]
      exact ⟨rfl, rfl⟩
  | single before after =>
      obtain ⟨a, ha⟩ := List.length_eq_one_iff.mp (harity 1 rfl)
      obtain ⟨rfl, rfl⟩ := List.cons.inj ha
      exact ⟨by simp [isFilled, hv], rfl⟩
  | atLeast shift =>
      obtain ⟨a, ha⟩ := List.length_eq_one_iff.mp (harity 1 rfl)
      obtain ⟨rfl, rfl⟩ := List.cons.inj ha
      exact ⟨by simp [isFilled, hv], rfl⟩
  | atMost shift =>
      obtain ⟨a, ha⟩ := List.length_eq_one_iff.mp (harity 1 rfl)
      obtain ⟨rfl, rfl⟩ := List.cons.inj ha
      exact ⟨by simp [isFilled, hv], rfl⟩

namespace Clause

/-! ### Results of reading and writing -/

variable {α β γ : Type} {strained strained' readable readable' : Prop}

/-- The result of reading and writing operands: a failure if they are strained, else something if
they are readable, and nothing otherwise. -/
inductive Settled (strained readable : Prop) : Except OperandError (Option α) → Prop
  | failed (e : OperandError) (h : strained) : Settled strained readable (.error e)
  | unread (h : ¬ strained) (hread : ¬ readable) : Settled strained readable (.ok none)
  | written (a : α) (h : ¬ strained) (hread : readable) : Settled strained readable (.ok (some a))

namespace Settled

variable {x : Except OperandError (Option α)} {y : Except OperandError (Option β)}

theorem error_iff (h : Settled strained readable x) : (∃ e, x = .error e) ↔ strained := by
  cases h with
  | failed e hs => simp [hs]
  | unread hs _ => simp [hs]
  | written a hs _ => simp [hs]

theorem some_iff (h : Settled strained readable x) :
    (∃ a, x = .ok (some a)) ↔ readable ∧ ¬ strained := by
  cases h with
  | failed e hs => simp [hs]
  | unread hs hr => simp [hr]
  | written a hs hr => simp [hs, hr]

theorem congr (h : Settled strained readable x) (hstrained : strained ↔ strained')
    (hreadable : readable ↔ readable') : Settled strained' readable' x := by
  cases h with
  | failed e hs => exact .failed e (hstrained.mp hs)
  | unread hs hr => exact .unread (mt hstrained.mpr hs) (mt hreadable.mpr hr)
  | written a hs hr => exact .written a (mt hstrained.mpr hs) (hreadable.mp hr)

theorem map (h : Settled strained readable x) (f : α → β) :
    Settled strained readable (x.map (·.map f)) := by
  cases h with
  | failed e hs => exact .failed e hs
  | unread hs hr => exact .unread hs hr
  | written a hs hr => exact .written (f a) hs hr

/-- Both operands are written before it matters whether they can be read. -/
theorem both (hx : Settled strained readable x) (hy : Settled strained' readable' y)
    (f : α → β → γ) :
    Settled (strained ∨ strained') (readable ∧ readable') (do
      let a ← x
      let b ← y
      return do return f (← a) (← b)) := by
  cases hx with
  | failed e hs => exact .failed e (.inl hs)
  | unread hs hr =>
      cases hy with
      | failed e hs' => exact .failed e (.inr hs')
      | unread hs' _ => exact .unread (not_or.mpr ⟨hs, hs'⟩) fun h => hr h.1
      | written b hs' _ => exact .unread (not_or.mpr ⟨hs, hs'⟩) fun h => hr h.1
  | written a hs hr =>
      cases hy with
      | failed e hs' => exact .failed e (.inr hs')
      | unread hs' hr' => exact .unread (not_or.mpr ⟨hs, hs'⟩) fun h => hr' h.2
      | written b hs' hr' => exact .written (f a b) (not_or.mpr ⟨hs, hs'⟩) ⟨hr, hr'⟩

end Settled

/-! ### Texts of operands -/

theorem plainText_settled (v : Value) (f : String → Option α) :
    Settled (v.isWritable = false) ((f v.toText).isSome = true) ((plainText v).map f) := by
  unfold plainText Value.written
  cases hv : v.isWritable with
  | false => exact .failed _ rfl
  | true =>
      have hmap : ((Except.ok v.toText : Except NumeralError String).mapError
          OperandError.numeral).map f = .ok (f v.toText) := rfl
      rw [if_pos rfl, hmap]
      cases hf : f v.toText with
      | none => exact .unread (by simp) (by simp)
      | some a => exact .written a (by simp) rfl

theorem escapedText_settled (v : Value) :
    Settled (v.Strains 0 .text) (v.isReadable .text = true) (escapedText v) :=
  plainText_settled v fun s => some (escape s)

theorem shiftedText_error_iff (n : Number) (shift : Int) :
    (∃ e, n.shiftedText shift = .error e) ↔ n.Overflows shift := by
  cases n with
  | int n =>
      by_cases h : Numeral.width (n + shift).natAbs ≤ Numeral.maxDigits
      · simp [Number.shiftedText, Numeral.text?, Number.Overflows, h]
      · simp [Number.shiftedText, Numeral.text?, Number.Overflows, h, Nat.lt_of_not_le h]
  | float x => simp [Number.shiftedText, Number.Overflows]
  | decimal d =>
      cases hsum : d.addInt shift with
      | ok sum => simp [Number.shiftedText, Number.Overflows, hsum]
      | error e => cases e <;> simp [Number.shiftedText, Number.Overflows, hsum]

theorem numberText_settled (v : Value) (shift : Int) :
    Settled (v.Strains shift .number) (v.isReadable .number = true) (numberText v shift) := by
  unfold numberText
  cases hv : Number.ofValue v with
  | error e => exact .failed _ (by simp [Value.Strains, hv])
  | ok number =>
      cases number with
      | none =>
          have hstrains : ¬ v.Strains shift .number := by simp [Value.Strains, hv]
          exact .unread hstrains (by simp [Value.isReadable, hv, Except.toOption])
      | some n =>
          have hreadable : v.isReadable .number = true := by
            simp [Value.isReadable, hv, Except.toOption]
          have hstrains : v.Strains shift .number ↔ n.Overflows shift := by
            simp [Value.Strains, hv]
          have herror := shiftedText_error_iff n shift
          rw [hstrains]
          dsimp only
          cases hs : n.shiftedText shift with
          | error e => exact .failed _ (herror.mp ⟨e, hs⟩)
          | ok s => exact .written s (fun h => by simpa [hs] using herror.mpr h) hreadable

theorem instantText_settled (v : Value) (shift : Int) :
    Settled (v.Strains shift .dateTime) (v.isReadable .dateTime = true) (instantText v shift) := by
  unfold instantText DateTime.instantOf
  cases hv : DateTime.ofValue? v with
  | none => exact .unread (by simp [Value.Strains, hv]) (by simp [Value.isReadable, hv])
  | some t =>
      have hreadable : v.isReadable .dateTime = true := by simp [Value.isReadable, hv]
      have hstrains : v.Strains shift .dateTime ↔ t.Leaves shift := by
        simp [Value.Strains, hv]
      rw [hstrains]
      by_cases hu : DateTime.InCalendar t.universal
      · have hnat : ((t.universal.toNat : Nat) : Int) = t.universal := Int.toNat_of_nonneg hu.1
        simp only [DateTime.toUniversal?_eq_some hu, DateTime.add?, hnat]
        by_cases hm : DateTime.InCalendar (t.universal + shift * instantUnit)
        · rw [DateTime.instant?_eq_some hm]
          exact .written _ (fun h => h ⟨hu, hm⟩) hreadable
        · rw [DateTime.instant?_eq_none hm]
          exact .failed _ fun h => hm h.2
      · simp only [DateTime.toUniversal?_eq_none hu]
        exact .failed _ fun h => hu h.1

theorem isSome_truthText (s : String) : (truthText s).isSome =
    (Text.isWord "true" (Text.trim s.toList) || Text.isWord "false" (Text.trim s.toList)) := by
  unfold truthText Text.isWord
  dsimp only
  cases Text.lower (Text.trim s.toList) == "true".toList <;>
    cases Text.lower (Text.trim s.toList) == "false".toList <;> rfl

theorem booleanText_settled (v : Value) :
    Settled (v.Strains 0 .boolean) (v.isReadable .boolean = true) (booleanText v) := by
  have hnamed := plainText_settled v truthText
  rw [isSome_truthText] at hnamed
  cases v with
  | bool b => cases b <;> exact .written _ (by simp [Value.Strains, Value.isWritable]) rfl
  | _ => exact hnamed

/-- An operand that stands alone or among alternatives. -/
theorem termText_settled (t : ValueType) (v : Value) :
    Settled (v.Strains 0 t) (v.isReadable t = true) (termText t v) := by
  cases t with
  | text => exact escapedText_settled v
  | number => exact numberText_settled v 0
  | dateTime => exact (instantText_settled v 0).map escape
  | boolean => exact booleanText_settled v
  | other name => exact .unread id (by simp [Value.isReadable])

/-- A bound of a range. -/
theorem boundText_settled {t : ValueType} (ht : t = .number ∨ t = .dateTime) (v : Value)
    (shift : Int) :
    Settled (v.Strains shift t) (v.isReadable t = true) (boundText t v shift) := by
  rcases ht with rfl | rfl
  · exact numberText_settled v shift
  · exact instantText_settled v shift

theorem termTexts_settled (t : ValueType) (vs : List Value) :
    Settled (∃ v ∈ vs, v.Strains 0 t) (∀ v ∈ vs, v.isReadable t = true) (termTexts t vs) := by
  induction vs with
  | nil => exact .written [] (by simp) (by simp)
  | cons v vs ih =>
      refine ((termText_settled t v).both ih List.cons).congr ?_ ?_
      · simp
      · simp

/-! ### Clauses -/

theorem Settled.bind_map {x : Except OperandError (Option α)} (h : Settled strained readable x)
    (f : α → β) : Settled strained readable (do return (← x).map f) := by
  cases h with
  | failed e hs => exact .failed e hs
  | unread hs hr => exact .unread hs hr
  | written a hs hr => exact .written (f a) hs hr

theorem not_strains_null (shift : Int) (t : ValueType) : ¬ Value.null.Strains shift t := by
  cases t <;> simp [Value.Strains, Value.isWritable, Number.ofValue, DateTime.ofValue?]

theorem first_settled {read : Value → Except OperandError (Option String)} {t : ValueType}
    {shift : Int} (values : List Value) (f : String → String)
    (hread : ∀ v, Settled (v.Strains shift t) (v.isReadable t = true) (read v)) :
    Settled (∃ v ∈ values.head?, v.Strains shift t)
      ((values.head?.getD .null).isNull = false ∧ ∀ v ∈ values.head?, v.isReadable t = true)
      (do
        let v := values.head?.getD .null
        if v.isNull then return none
        return (← read v).map f) := by
  cases values with
  | nil => exact .unread (by simp) (by simp [Value.isNull])
  | cons v vs =>
      cases hnull : v.isNull with
      | true =>
          have hv : v = .null := by cases v <;> first | rfl | cases hnull
          subst hv
          exact .unread (by simp [not_strains_null]) (by simp [Value.isNull])
      | false =>
          have hbody : ((v :: vs).head?.getD .null).isNull = false := hnull
          dsimp only
          rw [hbody, if_neg (by decide)]
          exact ((hread v).bind_map f).congr (by simp) (by simp)

/-- What stands after the field and its colon. -/
theorem body_settled {t : ValueType} {form : ClauseForm}
    (hrange : form.isRange = true → t = .number ∨ t = .dateTime) (values : List Value) :
    Settled (∃ p ∈ form.consumed values, p.1.Strains p.2 t)
      (form.isFilled values = true ∧ ∀ p ∈ form.consumed values, p.1.isReadable t = true)
      (body t values form) := by
  cases form with
  | single before after =>
      refine (first_settled values _ (termText_settled t)).congr ?_ ?_ <;>
        cases values <;> simp [ClauseForm.consumed, ClauseForm.isFilled, Value.isNull]
  | anyOf =>
      cases values with
      | nil => exact .unread (by simp [ClauseForm.consumed]) (by simp [ClauseForm.isFilled])
      | cons v vs =>
          refine ((termTexts_settled t (v :: vs)).bind_map _).congr ?_ ?_
          · constructor
            · rintro ⟨w, hw, hs⟩
              exact ⟨(w, 0), List.mem_map_of_mem hw, hs⟩
            · rintro ⟨p, hp, hs⟩
              obtain ⟨w, hw, rfl⟩ := List.mem_map.mp hp
              exact ⟨w, hw, hs⟩
          · simp [ClauseForm.consumed, ClauseForm.isFilled]
  | atLeast shift =>
      refine (first_settled values _ fun v => boundText_settled (hrange rfl) v shift).congr
        ?_ ?_ <;> cases values <;> simp [ClauseForm.consumed, ClauseForm.isFilled, Value.isNull]
  | atMost shift =>
      refine (first_settled values _ fun v => boundText_settled (hrange rfl) v shift).congr
        ?_ ?_ <;> cases values <;> simp [ClauseForm.consumed, ClauseForm.isFilled, Value.isNull]
  | range low high =>
      match values with
      | [] => exact .unread (by simp [ClauseForm.consumed]) (by simp [ClauseForm.isFilled])
      | [_] => exact .unread (by simp [ClauseForm.consumed]) (by simp [ClauseForm.isFilled])
      | [v, w] =>
          have hlow := boundText_settled (hrange rfl) v low
          have hhigh := boundText_settled (hrange rfl) w high
          refine (hlow.both hhigh fun a b => "[" ++ a ++ " TO " ++ b ++ "]").congr ?_ ?_
          · simp [ClauseForm.consumed]
          · simp [ClauseForm.consumed, ClauseForm.isFilled]
      | _ :: _ :: _ :: _ =>
          exact .unread (by simp [ClauseForm.consumed]) (by simp [ClauseForm.isFilled])

end Clause

namespace Criterion

/-- A condition with an operand that can be read but not be written. -/
def IsStrained (c : Criterion) : Prop :=
  ∃ rule, ClauseRule.find? c.valueType c.operator = some rule ∧
    ∃ p ∈ rule.form.consumed c.values, p.1.Strains p.2 c.valueType

/-- Whether a condition has an operator for its type, and no operand is missing or unreadable. -/
def isMeaningful (c : Criterion) : Bool :=
  (ClauseRule.find? c.valueType c.operator).any fun rule =>
    rule.form.isFilled c.values &&
      (rule.form.consumed c.values).all fun p => p.1.isReadable c.valueType

theorem clause?_settled (c : Criterion) :
    Clause.Settled c.IsStrained (c.isMeaningful = true) c.clause? := by
  unfold clause? IsStrained isMeaningful
  cases hrule : ClauseRule.find? c.valueType c.operator with
  | none => exact .unread (by simp) (by simp)
  | some rule =>
      have hbody := Clause.body_settled (ClauseRule.eq_of_isRange hrule) c.values
      refine (hbody.bind_map _).congr ?_ ?_
      · simp
      · simp

theorem clause?_fails_iff (c : Criterion) : (∃ e, c.clause? = .error e) ↔ c.IsStrained :=
  c.clause?_settled.error_iff

theorem has_clause_iff (c : Criterion) :
    (∃ clause, c.clause? = .ok (some clause)) ↔ c.isMeaningful = true ∧ ¬ c.IsStrained :=
  c.clause?_settled.some_iff

end Criterion

end CriteriaSearch
