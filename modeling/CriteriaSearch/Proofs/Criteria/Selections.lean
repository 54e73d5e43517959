import CriteriaSearch.Proofs.Criteria.Clauses
import CriteriaSearch.Proofs.Criteria.Reading

/-!
# What a clause selects

A clause is read as an index reads it: after the field stands one term, a group of alternatives, or
a range with both ends in it, where a star leaves an end open; a minus before the field asks for
everything else. How a term is written depends on the kind of its values and is a parameter here.
-/

namespace CriteriaSearch

open Text

/-- One value, alternatives, or a range that may be open at an end. -/
inductive Selection (α : Type) where
  | one (a : α)
  | anyOf (as : List α)
  | range (low high : Option α)

namespace Selection

variable {α : Type}

def Contains [LE α] : Selection α → α → Prop
  | .one a, x => x = a
  | .anyOf as, x => x ∈ as
  | .range low high, x => (∀ a ∈ low, a ≤ x) ∧ ∀ b ∈ high, x ≤ b

theorem contains_atLeast [LE α] {a x : α} : (range (some a) none).Contains x ↔ a ≤ x := by
  simp [Contains]

theorem contains_atMost [LE α] {b x : α} : (range none (some b)).Contains x ↔ x ≤ b := by
  simp [Contains]

/-! ### Readers -/

variable (term : List Char → Option α)

def end? (cs : List Char) : Option (Option α) :=
  if cs = ['*'] then some none else (term cs).map some

def range? (cs : List Char) : Option (Selection α) :=
  match splitAt ' ' cs with
  | [low, mark, high] =>
    if mark = ['T', 'O'] then do return .range (← end? term low) (← end? term high) else none
  | _ => none

def alternatives? : List (List Char) → Option (List α)
  | [] => none
  | [w] => (term w).map ([·])
  | w :: mark :: ws =>
    if mark = ['O', 'R'] then do return (← term w) :: (← alternatives? ws) else none

/-- What stands after the field and its colon. -/
def ofBody? : List Char → Option (Selection α)
  | '[' :: cs => if cs.getLast? = some ']' then range? term cs.dropLast else none
  | '(' :: cs =>
    if cs.getLast? = some ')' then (alternatives? term (splitAt ' ' cs.dropLast)).map .anyOf
    else none
  | cs => (term cs).map .one

/-- A clause on a field: whether it asks for everything else, and the selection. -/
def ofClause? (field clause : String) : Option (Bool × Selection α) :=
  match afterPrefix? (Clause.lead false field).toList clause.toList with
  | some cs => (ofBody? term cs).map (false, ·)
  | none =>
    (afterPrefix? (Clause.lead true field).toList clause.toList).bind fun cs =>
      (ofBody? term cs).map (true, ·)

end Selection

/-- Whether a clause on a field asks for a value. -/
def Clause.Selects {α : Type} [LE α] (term : List Char → Option α) (field clause : String)
    (x : α) : Prop :=
  ∃ negated s, Selection.ofClause? term field clause = some (negated, s) ∧
    if negated then ¬ s.Contains x else s.Contains x

namespace Selection

variable {α : Type} {term : List Char → Option α} {s : String} {a : α}

/-! ### Leads -/

theorem afterPrefix?_minus (w rest : List Char) :
    afterPrefix? (w ++ [':']) ('-' :: (w ++ ':' :: rest)) = none := by
  induction w with
  | nil => rfl
  | cons c w ih =>
      rw [List.cons_append, afterPrefix?]
      by_cases hc : c = '-'
      · rw [if_pos hc, hc]
        exact ih
      · rw [if_neg hc]

theorem ofClause?_lead (negated : Bool) (field s : String) :
    ofClause? term field (Clause.lead negated field ++ s) =
      (ofBody? term s.toList).map (negated, ·) := by
  have hlead : (Clause.lead false field).toList = field.toList ++ [':'] := by
    simp [Clause.lead]
  cases negated with
  | false => rw [ofClause?, String.toList_append, afterPrefix?_append]
  | true =>
      have hminus : (Clause.lead true field ++ s).toList =
          '-' :: (field.toList ++ ':' :: s.toList) := by
        simp [Clause.lead]
      rw [ofClause?, hlead, hminus, afterPrefix?_minus, ← hminus, String.toList_append,
        afterPrefix?_append]
      rfl

/-! ### Bodies -/

/-- A text that is read as a value wherever a term may stand. -/
structure Spells (term : List Char → Option α) (s : String) (a : α) : Prop where
  read : term s.toList = some a
  unbroken : ' ' ∉ s.toList
  unbracketed : ∀ c ∈ s.toList.head?, c ≠ '[' ∧ c ≠ '('
  ne_star : s.toList ≠ ['*']

def endText : Option String → String
  | none => "*"
  | some s => s

inductive SpellsEnd (term : List Char → Option α) : Option String → Option α → Prop
  | opened : SpellsEnd term none none
  | closed {s : String} {a : α} (h : Spells term s a) : SpellsEnd term (some s) (some a)

namespace SpellsEnd

variable {t : Option String} {end' : Option α}

theorem end?_eq (h : SpellsEnd term t end') : end? term (endText t).toList = some end' := by
  cases h with
  | opened => rfl
  | closed h => rw [endText, end?, if_neg h.ne_star, h.read, Option.map_some]

theorem unbroken (h : SpellsEnd term t end') : ' ' ∉ (endText t).toList := by
  cases h with
  | opened => decide
  | closed h => exact h.unbroken

end SpellsEnd

theorem ofBody?_one (h : Spells term s a) : ofBody? term s.toList = some (.one a) := by
  have hread := h.read
  have hunbracketed := h.unbracketed
  cases hs : s.toList with
  | nil =>
      rw [hs] at hread
      rw [ofBody?, hread, Option.map_some]
      all_goals simp
  | cons c cs =>
      rw [hs] at hread hunbracketed
      obtain ⟨hsquare, hround⟩ := hunbracketed c rfl
      rw [ofBody?, hread, Option.map_some]
      · rintro rest heq
        exact hsquare (List.cons.inj heq).1
      · rintro rest heq
        exact hround (List.cons.inj heq).1

theorem ofBody?_range {low high : Option String} {a b : Option α} (hlow : SpellsEnd term low a)
    (hhigh : SpellsEnd term high b) :
    ofBody? term ("[" ++ endText low ++ " TO " ++ endText high ++ "]").toList =
      some (.range a b) := by
  have hchars : ("[" ++ endText low ++ " TO " ++ endText high ++ "]").toList =
      '[' :: ((endText low).toList ++ ' ' :: (['T', 'O'] ++ ' ' :: (endText high).toList)
        ++ [']']) := by
    simp
  have hsplit : splitAt ' ' ((endText low).toList ++ ' ' :: (['T', 'O'] ++ ' ' ::
      (endText high).toList)) = [(endText low).toList, ['T', 'O'], (endText high).toList] := by
    rw [splitAt_append hlow.unbroken, splitAt_append (by decide), splitAt_of_not_mem hhigh.unbroken]
  rw [hchars, ofBody?, List.getLast?_concat, if_pos rfl, List.dropLast_concat, range?, hsplit]
  simp only [if_true, hlow.end?_eq, hhigh.end?_eq]
  rfl

theorem alternatives?_joinWith {ss : List String} {as : List α}
    (h : List.Forall₂ (Spells term) ss as) (hne : ss ≠ []) :
    alternatives? term (splitAt ' ' (joinWith " OR " ss).toList) = some as := by
  induction h with
  | nil => exact absurd rfl hne
  | @cons s a ss as hs hrest ih =>
      cases hrest with
      | nil =>
          rw [joinWith, splitAt_of_not_mem hs.unbroken, alternatives?, hs.read, Option.map_some]
      | cons ht hrest =>
          have hmark : " OR ".toList = ' ' :: (['O', 'R'] ++ [' ']) := by decide
          have hread := ih (List.cons_ne_nil _ _)
          rw [toList_joinWith_cons, hmark, List.cons_append, List.append_assoc,
            List.singleton_append, splitAt_append hs.unbroken, splitAt_append (by decide),
            alternatives?, if_pos rfl, hs.read, hread]
          rfl

theorem ofBody?_anyOf {ss : List String} {as : List α} (h : List.Forall₂ (Spells term) ss as)
    (hne : ss ≠ []) :
    ofBody? term ("(" ++ joinWith " OR " ss ++ ")").toList = some (.anyOf as) := by
  have hchars : ("(" ++ joinWith " OR " ss ++ ")").toList =
      '(' :: ((joinWith " OR " ss).toList ++ [')']) := by
    simp
  rw [hchars, ofBody?, List.getLast?_concat, if_pos rfl, List.dropLast_concat,
    alternatives?_joinWith h hne, Option.map_some]

end Selection

/-! ### Operators -/

/-- Whether a value passes an operator with its operands. The range of `within` goes beyond its
operands by `slack` on both sides. -/
def Operator.Admits (slack : Int) : Operator → List Int → Int → Prop
  | .equal, [v], x => x = v
  | .notEqual, [v], x => x ≠ v
  | .greater, [v], x => v < x
  | .greaterEqual, [v], x => v ≤ x
  | .less, [v], x => x < v
  | .lessEqual, [v], x => x ≤ v
  | .between, [v, w], x => v ≤ x ∧ x ≤ w
  | .notBetween, [v, w], x => ¬ (v ≤ x ∧ x ≤ w)
  | .within, [v, w], x => v - slack ≤ x ∧ x ≤ w + slack
  | .isIn, vs, x => x ∈ vs
  | .notIn, vs, x => x ∉ vs
  | _, _, _ => False

/-! ### Clauses -/

namespace ClauseForm

/-- The selection of a clause of a form that names the given values. -/
def select {α : Type} : ClauseForm → List α → Selection α
  | .single _ _, [a] => .one a
  | .atLeast _, [a] => .range (some a) none
  | .atMost _, [a] => .range none (some a)
  | .range _ _, [a, b] => .range (some a) (some b)
  | _, as => .anyOf as

/-- The body of a clause of a form from the texts of its operands. -/
def print : ClauseForm → List String → String
  | .single before after, [s] => before ++ s ++ after
  | .atLeast _, [s] => "[" ++ s ++ " TO *]"
  | .atMost _, [s] => "[* TO " ++ s ++ "]"
  | .range _ _, [s, s'] => "[" ++ s ++ " TO " ++ s' ++ "]"
  | _, ss => "(" ++ joinWith " OR " ss ++ ")"

/-- A form in which nothing stands around a single operand. -/
def IsBare : ClauseForm → Prop
  | .single before after => before = "" ∧ after = ""
  | _ => True

/-- The values that a clause of a form names: its operands, of which bounds are moved by units. -/
def named (unit : Int) : ClauseForm → List Int → List Int
  | .atLeast shift, [v] => [v + shift * unit]
  | .atMost shift, [v] => [v + shift * unit]
  | .range low high, [v, w] => [v + low * unit, w + high * unit]
  | _, vs => vs

theorem forall₂_consumed {R : Value → Int → Prop} {form : ClauseForm} {values : List Value}
    {ns : List Int} (h : List.Forall₂ R values ns)
    (harity : ∀ k, form.arity = some k → values.length = k) (unit : Int) :
    List.Forall₂ (fun p a => ∃ n, R p.1 n ∧ a = n + p.2 * unit) (form.consumed values)
      (form.named unit ns) := by
  cases form with
  | anyOf =>
      refine List.forall₂_map_left_iff.mpr (h.imp fun v n hv => ⟨n, hv, ?_⟩)
      rw [Int.zero_mul, Int.add_zero]
  | single before after =>
      obtain ⟨v, rfl⟩ := List.length_eq_one_iff.mp (harity 1 rfl)
      obtain _ | ⟨hv, hnil⟩ := h
      cases hnil
      exact .cons ⟨_, hv, by rw [Int.zero_mul, Int.add_zero]⟩ .nil
  | atLeast shift =>
      obtain ⟨v, rfl⟩ := List.length_eq_one_iff.mp (harity 1 rfl)
      obtain _ | ⟨hv, hnil⟩ := h
      cases hnil
      exact .cons ⟨_, hv, rfl⟩ .nil
  | atMost shift =>
      obtain ⟨v, rfl⟩ := List.length_eq_one_iff.mp (harity 1 rfl)
      obtain _ | ⟨hv, hnil⟩ := h
      cases hnil
      exact .cons ⟨_, hv, rfl⟩ .nil
  | range low high =>
      obtain ⟨v, w, rfl⟩ := List.length_eq_two.mp (harity 2 rfl)
      obtain _ | ⟨hv, hrest⟩ := h
      obtain _ | ⟨hw, hnil⟩ := hrest
      cases hnil
      exact .cons ⟨_, hv, rfl⟩ (.cons ⟨_, hw, rfl⟩ .nil)

end ClauseForm

namespace Clause

variable {t : ValueType} {form : ClauseForm}

/-! ### Printing -/

/-- The text of an operand where a form consumes it. -/
def operandText (t : ValueType) (form : ClauseForm) (p : Value × Int) : OperandText :=
  if form.isRange then boundText t p.1 p.2 else termText t p.1

def Written (t : ValueType) (form : ClauseForm) (values : List Value) (ss : List String) : Prop :=
  List.Forall₂ (fun p s => operandText t form p = .ok (some s)) (form.consumed values) ss

theorem Written.length_eq {values : List Value} {ss : List String} (h : Written t form values ss)
    (hall : (form.consumed values).map Prod.fst = values) : ss.length = values.length := by
  rw [← List.Forall₂.length_eq h, ← List.length_map Prod.fst, hall]

theorem exists_head_of_isFilled {values : List Value}
    (hfilled : (!(values.head?.getD .null).isNull) = true) :
    ∃ v vs, values = v :: vs ∧ v.isNull = false := by
  cases values with
  | nil => cases hfilled
  | cons v vs => exact ⟨v, vs, rfl, by simpa using hfilled⟩

theorem termTexts_eq {vs : List Value} {ss : List String}
    (h : List.Forall₂ (fun v s => termText t v = .ok (some s)) vs ss) :
    termTexts t vs = .ok (some ss) := by
  induction h with
  | nil => rfl
  | cons hv _ ih =>
      rw [termTexts, hv, ih]
      rfl

theorem body_eq_print {values : List Value} {ss : List String}
    (hfilled : form.isFilled values = true) (h : Written t form values ss) :
    body t values form = .ok (some (form.print ss)) := by
  cases form with
  | single before after =>
      obtain ⟨v, vs, rfl, hnull⟩ := exists_head_of_isFilled hfilled
      obtain _ | ⟨hs, hnil⟩ := h
      cases hnil
      have hterm : termText t v = .ok (some _) := hs
      simp [body, ClauseForm.print, hnull, hterm, bind, Except.bind, pure, Except.pure]
  | anyOf =>
      have hne : values ≠ [] := by simpa [ClauseForm.isFilled] using hfilled
      have hterms := termTexts_eq (List.forall₂_map_left_iff.mp h)
      simp [body, ClauseForm.print, hne, hterms, bind, Except.bind, pure, Except.pure]
  | atLeast shift =>
      obtain ⟨v, vs, rfl, hnull⟩ := exists_head_of_isFilled hfilled
      obtain _ | ⟨hs, hnil⟩ := h
      cases hnil
      have hbound : boundText t v shift = .ok (some _) := hs
      simp [body, ClauseForm.print, hnull, hbound, bind, Except.bind, pure, Except.pure]
  | atMost shift =>
      obtain ⟨v, vs, rfl, hnull⟩ := exists_head_of_isFilled hfilled
      obtain _ | ⟨hs, hnil⟩ := h
      cases hnil
      have hbound : boundText t v shift = .ok (some _) := hs
      simp [body, ClauseForm.print, hnull, hbound, bind, Except.bind, pure, Except.pure]
  | range lowShift highShift =>
      obtain ⟨v, w, rfl⟩ := List.length_eq_two.mp (by simpa [ClauseForm.isFilled] using hfilled)
      obtain _ | ⟨hlow, hrest⟩ := h
      obtain _ | ⟨hhigh, hnil⟩ := hrest
      cases hnil
      have hboundLow : boundText t v lowShift = .ok (some _) := hlow
      have hboundHigh : boundText t w highShift = .ok (some _) := hhigh
      simp [body, ClauseForm.print, hboundLow, hboundHigh, bind, Except.bind, pure, Except.pure]

end Clause

/-! ### Reading what is printed -/

namespace Selection

variable {α : Type} {term : List Char → Option α} {form : ClauseForm} {ss : List String}
  {as : List α}

theorem ofBody?_print (hbare : form.IsBare) (hne : ss ≠ [])
    (harity : ∀ k, form.arity = some k → ss.length = k) (h : List.Forall₂ (Spells term) ss as) :
    ofBody? term (form.print ss).toList = some (form.select as) := by
  cases form with
  | single before after =>
      obtain ⟨rfl, rfl⟩ := hbare
      obtain ⟨s, rfl⟩ := List.length_eq_one_iff.mp (harity 1 rfl)
      obtain _ | ⟨hs, hnil⟩ := h
      cases hnil
      have hbody : ClauseForm.print (.single "" "") [s] = s := by
        simp [ClauseForm.print]
      rw [hbody]
      exact ofBody?_one hs
  | anyOf => exact ofBody?_anyOf h hne
  | atLeast shift =>
      obtain ⟨s, rfl⟩ := List.length_eq_one_iff.mp (harity 1 rfl)
      obtain _ | ⟨hs, hnil⟩ := h
      cases hnil
      have hbody : "[" ++ s ++ " TO *]" =
          "[" ++ endText (some s) ++ " TO " ++ endText none ++ "]" := by
        simp [endText, String.append_assoc]
      rw [ClauseForm.print, hbody]
      exact ofBody?_range (.closed hs) .opened
  | atMost shift =>
      obtain ⟨s, rfl⟩ := List.length_eq_one_iff.mp (harity 1 rfl)
      obtain _ | ⟨hs, hnil⟩ := h
      cases hnil
      have hbody : "[* TO " ++ s ++ "]" =
          "[" ++ endText none ++ " TO " ++ endText (some s) ++ "]" := by
        simp [endText]
      rw [ClauseForm.print, hbody]
      exact ofBody?_range .opened (.closed hs)
  | range lowShift highShift =>
      obtain ⟨s, s', rfl⟩ := List.length_eq_two.mp (harity 2 rfl)
      obtain _ | ⟨hs, hrest⟩ := h
      obtain _ | ⟨hs', hnil⟩ := hrest
      cases hnil
      have hread := ofBody?_range (.closed hs) (.closed hs')
      exact hread

end Selection

theorem ClauseRule.operands_present {R : Value → Int → Prop}
    (hR : ∀ {v n}, R v n → v.isNull = false) {t : ValueType} {op : Operator} {rule : ClauseRule}
    (hrule : find? t op = some rule) {values : List Value} {ns : List Int}
    (hvalues : List.Forall₂ R values ns) (hne : ns ≠ [])
    (harity : ∀ k, op.arity = some k → ns.length = k) :
    values ≠ [] ∧ (∀ v ∈ values, v.isNull = false) ∧
      ∀ k, rule.form.arity = some k → values.length = k := by
  refine ⟨?_, fun v hv => ?_, fun k hk => ?_⟩
  · rintro rfl
    cases hvalues
    exact hne rfl
  · obtain ⟨n, -, hn⟩ := exists_of_forall₂_right hvalues.flip hv
    exact hR hn
  · rw [arity_form hrule] at hk
    exact hvalues.length_eq.trans (harity k hk)

def ClauseRule.print (rule : ClauseRule) (field : String) (ss : List String) : String :=
  Clause.lead rule.negated field ++ rule.form.print ss

/-- If all operands are written, then so is the clause, and if their texts are read as values, then
it selects what its form makes of them. -/
theorem Clause.clause?_read {α : Type} {term : List Char → Option α} {c : Criterion}
    {rule : ClauseRule} {ss : List String} {as : List α}
    (hrule : ClauseRule.find? c.valueType c.operator = some rule) (hbare : rule.form.IsBare)
    (hne : c.values ≠ []) (hpresent : ∀ v ∈ c.values, v.isNull = false)
    (harity : ∀ k, rule.form.arity = some k → c.values.length = k)
    (hwritten : Written c.valueType rule.form c.values ss)
    (hspells : List.Forall₂ (Selection.Spells term) ss as) :
    c.clause? = .ok (some (rule.print c.field ss)) ∧
      Selection.ofClause? term c.field (rule.print c.field ss) =
        some (rule.negated, rule.form.select as) := by
  obtain ⟨hfilled, hall⟩ := ClauseForm.consumed_of_arity hne hpresent harity
  have hcount := hwritten.length_eq hall
  have hsome : ss ≠ [] := by
    rintro rfl
    exact hne (List.length_eq_zero_iff.mp hcount.symm)
  have hbody := Selection.ofBody?_print hbare hsome
    (fun k hk => hcount.trans (harity k hk)) hspells
  refine ⟨clause?_eq_lead hrule (body_eq_print hfilled hwritten), ?_⟩
  rw [ClauseRule.print, Selection.ofClause?_lead, hbody, Option.map_some]

end CriteriaSearch
