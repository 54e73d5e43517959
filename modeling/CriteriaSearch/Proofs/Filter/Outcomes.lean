import CriteriaSearch.Filter
import CriteriaSearch.Proofs.Lists

/-!
# What comes of a filter text

All that can come of an operand, of a condition and of a filter text: the entries that are made, and
the ways in which a condition is refused.
-/

namespace CriteriaSearch.Filter

open Text

/-! ### Operands -/

/-- What comes of an operand. -/
inductive Operand.Outcome (cs : List Char) : Except FilterError Operand → Prop
  | quoted {inner : List Char} (quotes : unquoted? cs = some inner) :
      Outcome cs (.ok ⟨.text (String.ofList inner), .text, inner⟩)
  | truth (b : Bool) (bare : unquoted? cs = none) (word : isWord (toString b) cs = true) :
      Outcome cs (.ok ⟨.bool b, .boolean, cs⟩)
  | fraction (x : Binary64) (bare : unquoted? cs = none) (form : numeralForm? cs = some true) :
      Outcome cs (.ok ⟨.float x, .number, cs⟩)
  | whole {n : Int} (bare : unquoted? cs = none) (form : numeralForm? cs = some false)
      (read : Numeral.int? cs = some n) : Outcome cs (.ok ⟨.int n, .number, cs⟩)
  | tooLong (bare : unquoted? cs = none) (form : numeralForm? cs = some false)
      (read : Numeral.int? cs = none) : Outcome cs (.error .numeralTooLong)
  | plain (t : ValueType) (bare : unquoted? cs = none) (form : numeralForm? cs = none) :
      Outcome cs (.ok ⟨.text (String.ofList cs), t, cs⟩)

theorem Operand.outcome_ofText (cs : List Char) : Outcome cs (ofText cs) := by
  unfold ofText
  cases hquoted : unquoted? cs with
  | some inner => exact .quoted hquoted
  | none =>
      dsimp only
      by_cases htrue : isWord "true" cs = true
      · rw [if_pos htrue]
        exact .truth true hquoted htrue
      by_cases hfalse : isWord "false" cs = true
      · rw [if_neg htrue, if_pos hfalse]
        exact .truth false hquoted hfalse
      rw [if_neg htrue, if_neg hfalse]
      cases hform : numeralForm? cs with
      | none => exact .plain _ hquoted hform
      | some hasFraction =>
          cases hasFraction with
          | true => exact .fraction _ hquoted hform
          | false =>
              cases hread : Numeral.int? cs with
              | none => exact .tooLong hquoted hform hread
              | some n => exact .whole hquoted hform hread

/-! ### Conditions -/

def Condition.field : Condition → List Char
  | .sort field _ => field
  | .list field _ _ => field
  | .symbol field _ _ _ => field

/-- The operator of a list, by its keyword in lower case. -/
def operator? (keyword : List Char) : Option Operator :=
  keywords.lookup (String.ofList (lowerLetters keyword))

/-- What comes of a condition. -/
inductive Outcome (rules : FieldRules) (how : Conjunction) (text : String) :
    Condition → Except FilterError Criterion → Prop
  | badField {condition : Condition} {e : FilterError}
      (check : rules.check condition.field = .error e) : Outcome rules how text condition (.error e)
  | sort {field direction : List Char} (check : rules.check field = .ok ()) :
      Outcome rules how text (.sort field direction)
        (.ok ⟨String.ofList field, .text, .sort,
          [.text (String.ofList (lowerLetters direction))], .and⟩)
  | badKeyword {field keyword operands : List Char} (check : rules.check field = .ok ())
      (key : operator? keyword = none) :
      Outcome rules how text (.list field keyword operands) (.error .unknownKeyword)
  | badItem {field keyword operands : List Char} {operator : Operator} {e : FilterError}
      (check : rules.check field = .ok ()) (key : operator? keyword = some operator)
      (items : Operand.listOf operands = .error e) :
      Outcome rules how text (.list field keyword operands) (.error e)
  | noItems {field keyword operands : List Char} {operator : Operator}
      (check : rules.check field = .ok ()) (key : operator? keyword = some operator)
      (items : Operand.listOf operands = .ok []) :
      Outcome rules how text (.list field keyword operands)
        (.error (.noValues (String.ofList (lowerLetters keyword)) text))
  | notTwo {field keyword operands : List Char} {operator : Operator} {os : List Operand}
      (check : rules.check field = .ok ()) (key : operator? keyword = some operator)
      (items : Operand.listOf operands = .ok os) :
      Outcome rules how text (.list field keyword operands)
        (.error (.notTwoValues (String.ofList (lowerLetters keyword)) text))
  | list {field keyword operands : List Char} {operator : Operator} {o : Operand}
      {rest : List Operand} (check : rules.check field = .ok ())
      (key : operator? keyword = some operator) (items : Operand.listOf operands = .ok (o :: rest))
      (number : isMembership operator = true ∨ rest.length = 1) :
      Outcome rules how text (.list field keyword operands)
        (.ok ⟨String.ofList field, rules.typeOf field o.valueType, operator,
          (o :: rest).map (·.coerce (rules.typeOf field o.valueType)), how⟩)
  | badOperand {field operand : List Char} {sign : String} {operator : Operator} {e : FilterError}
      (check : rules.check field = .ok ()) (read : Operand.ofText operand = .error e) :
      Outcome rules how text (.symbol field sign operator operand) (.error e)
  | notOrdered {field operand : List Char} {sign : String} {operator : Operator} {o : Operand}
      (check : rules.check field = .ok ()) (read : Operand.ofText operand = .ok o) :
      Outcome rules how text (.symbol field sign operator operand) (.error (.notOrdered sign text))
  | symbol {field operand : List Char} {sign : String} {operator : Operator} {o : Operand}
      (t : ValueType) (check : rules.check field = .ok ()) (read : Operand.ofText operand = .ok o)
      (textual : isTextual operator = true → t = .text)
      (ordered : isOrdering operator = true → t = .number ∨ t = .dateTime) :
      Outcome rules how text (.symbol field sign operator operand)
        (.ok ⟨String.ofList field, t, operator, [o.coerce t], how⟩)

theorem entryOf_of_check {rules : FieldRules} {condition : Condition} {e : FilterError}
    (hcheck : rules.check condition.field = .error e) (how : Conjunction) (text : String) :
    entryOf rules how text condition = .error e := by
  cases condition with
  | sort field direction =>
      have hfield : rules.check field = .error e := hcheck
      rw [entryOf, hfield]
      rfl
  | list field keyword operands =>
      have hfield : rules.check field = .error e := hcheck
      rw [entryOf, hfield]
      rfl
  | symbol field sign operator operand =>
      have hfield : rules.check field = .error e := hcheck
      rw [entryOf, hfield]
      rfl

theorem outcome_entryOf (rules : FieldRules) (how : Conjunction) (text : String)
    (condition : Condition) :
    Outcome rules how text condition (entryOf rules how text condition) := by
  cases hcheck : rules.check condition.field with
  | error e =>
      rw [entryOf_of_check hcheck]
      exact .badField hcheck
  | ok _ =>
      cases condition with
      | sort field direction =>
          have hfield : rules.check field = .ok () := hcheck
          rw [entryOf, hfield]
          exact .sort hfield
      | list field keyword operands =>
          have hfield : rules.check field = .ok () := hcheck
          rw [entryOf, hfield]
          cases hkey : operator? keyword with
          | none =>
              simp only [bind, Except.bind, show keywords.lookup _ = _ from hkey]
              exact .badKeyword hfield hkey
          | some operator =>
              simp only [bind, Except.bind, show keywords.lookup _ = _ from hkey]
              cases hitems : Operand.listOf operands with
              | error e => exact .badItem hfield hkey hitems
              | ok os =>
                  cases os with
                  | nil => exact .noItems hfield hkey hitems
                  | cons o rest =>
                      dsimp only
                      split_ifs with hnumber
                      · exact .notTwo hfield hkey hitems
                      · refine .list hfield hkey hitems ?_
                        simp only [Bool.and_eq_true, Bool.not_eq_true', bne_iff_ne, not_and,
                          Decidable.not_not] at hnumber
                        exact (Bool.eq_false_or_eq_true _).imp_right hnumber
      | symbol field sign operator operand =>
          have hfield : rules.check field = .ok () := hcheck
          rw [entryOf, hfield]
          cases hread : Operand.ofText operand with
          | error e => exact .badOperand hfield hread
          | ok o =>
              dsimp only [bind, Except.bind]
              generalize ht : (if isTextual operator = true then ValueType.text
                else rules.typeOf field o.valueType) = t
              have htextual : isTextual operator = true → t = .text := fun h => by
                rw [← ht, if_pos h]
              split_ifs with hunordered
              · exact .notOrdered hfield hread
              · refine .symbol t hfield hread htextual fun h => ?_
                simpa [h, or_iff_not_imp_left] using hunordered

/-! ### Conditions as written -/

/-- The conditions that are read: a keyword is one of the keywords when case is ignored, and the
operator of a symbol is its own. -/
inductive Condition.Read : Condition → Prop
  | sort (field direction : List Char) : Read (.sort field direction)
  | list {field keyword operands : List Char} {word : String} (mem : word ∈ keywords.map Prod.fst)
      (folded : keyword.map folded = word.toList) : Read (.list field keyword operands)
  | symbol {field operand : List Char} {sign : String} {operator : Operator}
      (mem : (sign, operator) ∈ symbols) : Read (.symbol field sign operator operand)

theorem Condition.read_of_sort? {cs : List Char} {condition : Condition}
    (h : sort? cs = some condition) : condition.Read := by
  unfold sort? at h
  split at h
  · split_ifs at h
    obtain rfl := Option.some.inj h
    exact .sort _ _
  · split_ifs at h
    obtain rfl := Option.some.inj h
    exact .sort _ _
  · cases h

theorem Condition.exists_keyword {cs keyword operands : List Char}
    (h : keyword? cs = some (keyword, operands)) :
    ∃ word ∈ keywords.map Prod.fst, keyword.map folded = word.toList := by
  unfold keyword? at h
  dsimp only at h
  split_ifs at h with hword hnot hsecond
  · obtain ⟨rest, -, hkeyword⟩ := Option.map_eq_some_iff.mp h
    obtain ⟨rfl, -⟩ := Prod.mk.inj hkeyword
    obtain ⟨word, hmem, hfolded⟩ := List.any_eq_true.mp hword
    have hkeywords : ∀ word ∈ ["in", "between", "within"], word ∈ keywords.map Prod.fst := by
      decide
    exact ⟨word, hkeywords word hmem, eq_of_beq hfolded⟩
  · obtain ⟨rest, -, hkeyword⟩ := Option.map_eq_some_iff.mp h
    obtain ⟨rfl, -⟩ := Prod.mk.inj hkeyword
    obtain ⟨word, hmem, hfolded⟩ := List.any_eq_true.mp hsecond
    have hkeywords : ∀ word ∈ ["in", "between"], "not " ++ word ∈ keywords.map Prod.fst := by
      decide
    refine ⟨"not " ++ word, hkeywords word hmem, ?_⟩
    rw [List.map_append, List.map_cons, eq_of_beq hnot, eq_of_beq hfolded, String.toList_append]
    rfl

theorem Condition.read_of_list? {cs : List Char} {condition : Condition}
    (h : list? cs = some condition) : condition.Read := by
  unfold list? at h
  dsimp only at h
  split_ifs at h
  obtain ⟨⟨keyword, operands⟩, hkeyword, rfl⟩ := Option.map_eq_some_iff.mp h
  obtain ⟨word, hmem, hfolded⟩ := exists_keyword hkeyword
  exact .list hmem hfolded

theorem Condition.read_of_symbol? {cs : List Char} {condition : Condition}
    (h : symbol? cs = some condition) : condition.Read := by
  unfold symbol? at h
  dsimp only at h
  split_ifs at h
  obtain ⟨⟨sign, operator⟩, hmem, hfound⟩ := List.exists_of_findSome?_eq_some h
  simp only [Option.bind_eq_bind, Option.bind_eq_some_iff, Option.pure_def,
    Option.some.injEq] at hfound
  obtain ⟨rest, -, operand, -, rfl⟩ := hfound
  exact .symbol hmem

theorem Condition.read_of_ofText? {cs : List Char} {condition : Condition}
    (h : ofText? cs = some condition) : condition.Read := by
  unfold ofText? at h
  cases hsort : sort? cs with
  | some found =>
      rw [hsort] at h
      obtain rfl := Option.some.inj h
      exact read_of_sort? hsort
  | none =>
      cases hlist : list? cs with
      | some found =>
          rw [hsort, hlist] at h
          obtain rfl := Option.some.inj h
          exact read_of_list? hlist
      | none =>
          rw [hsort, hlist] at h
          exact read_of_symbol? h

/-! ### Filter texts -/

theorem mapM_entry_eq (rules : FieldRules) (parts : List (Conjunction × List Char)) :
    parts.mapM (entry rules) =
      match entries rules parts with
      | (cs, none) => .ok cs
      | (_, some e) => .error e := by
  induction parts with
  | nil => rfl
  | cons part parts ih =>
      rw [List.mapM_cons, entries, ih]
      cases entry rules part with
      | error e => rfl
      | ok c => rcases entries rules parts with ⟨cs, _ | e⟩ <;> rfl

/-- A filter text is accepted if all its conditions are. -/
theorem mapM_entry_of_accepted {rules : FieldRules} {parts : List (Conjunction × List Char)}
    {cs : List Criterion} (h : entries rules parts = (cs, none)) :
    parts.mapM (entry rules) = .ok cs := by
  rw [mapM_entry_eq, h]

/-- A filter text is refused for the first of its conditions that is. -/
theorem refused_iff {rules : FieldRules} {parts : List (Conjunction × List Char)}
    {e : FilterError} : (entries rules parts).2 = some e ↔
      ∃ before part after, parts = before ++ part :: after ∧
        (∀ p ∈ before, ∃ c, entry rules p = .ok c) ∧ entry rules part = .error e := by
  rw [← mapM_eq_error_iff, mapM_entry_eq]
  rcases entries rules parts with ⟨cs, _ | e'⟩ <;> simp

end CriteriaSearch.Filter
