import CriteriaSearch.Proofs.Filter.Operands
import CriteriaSearch.Proofs.Filter.Splitting

/-!
# Filter texts are read back

A written filter text is split into the conditions that it was written from, each is recognized in
its form, and its operands are read as its literals. So it stands for the entries that were meant.
-/

namespace CriteriaSearch.Filter

open Text

theorem FieldName.check (f : FieldName) : FieldRules.check {} f.chars = .ok () := by
  rw [FieldRules.check, f.isField]
  rfl

theorem typeOf_undeclared (field : List Char) (look : ValueType) :
    FieldRules.typeOf {} field look = look := rfl

theorem Keyword.lookup (k : Keyword) :
    keywords.lookup (String.ofList (lowerLetters k.chars)) = some k.operator := by
  cases k <;> decide

/-- Ranges have two values. -/
theorem Keyword.length_of_takes {k : Keyword} {first : Literal} {others : List Literal}
    (valid : k.takes first others = true) :
    (!isMembership k.operator && others.length != 1) = false := by
  have hrange := (Bool.and_eq_true_iff.mp valid).2
  cases k with
  | isIn => rfl
  | notIn => rfl
  | between => simpa [Keyword.operator, isMembership] using (Bool.and_eq_true_iff.mp hrange).1
  | notBetween => simpa [Keyword.operator, isMembership] using (Bool.and_eq_true_iff.mp hrange).1
  | within => simpa [Keyword.operator, isMembership] using (Bool.and_eq_true_iff.mp hrange).1

theorem Keyword.valueType_of_takes {k : Keyword} {first : Literal} {others : List Literal}
    (valid : k.takes first others = true) : ∀ v ∈ others, v.valueType = first.valueType := by
  intro v hv
  have hall := (Bool.and_eq_true_iff.mp valid).1
  exact eq_of_beq (List.all_eq_true.mp hall v hv)

theorem Sign.valueType_of_takes {sign : Sign} {v : Literal} (valid : sign.takes v = true) :
    (if isTextual sign.operator then .text else v.valueType) = v.valueType := by
  cases sign with
  | contains => exact (eq_of_beq valid).symm
  | notContains => exact (eq_of_beq valid).symm
  | startsWith => exact (eq_of_beq valid).symm
  | endsWith => exact (eq_of_beq valid).symm
  | _ => rfl

theorem Sign.ordered_of_takes {sign : Sign} {v : Literal} (valid : sign.takes v = true) :
    (isOrdering sign.operator && !(v.valueType == .number || v.valueType == .dateTime)) =
      false := by
  cases sign with
  | less => simp [eq_of_beq valid]
  | lessEqual => simp [eq_of_beq valid]
  | greater => simp [eq_of_beq valid]
  | greaterEqual => simp [eq_of_beq valid]
  | _ => rfl

/-- Without declared types, the entry of a condition is the one that was meant. -/
theorem entryOf_condition (how : Conjunction) (text : String) (i : Intent) :
    entryOf {} how text i.condition = .ok (i.entry how) := by
  cases i with
  | sort field direction =>
      have hword : String.ofList (lowerLetters direction.name.toList) = direction.name := by
        cases direction <;> rfl
      simp only [Intent.condition, entryOf, field.check, hword]
      rfl
  | list field keyword first others valid =>
      have hvalues : (first.operand :: others.map Literal.operand).map (·.coerce first.valueType) =
          first.value :: others.map Literal.value := by
        have hsame := Keyword.valueType_of_takes valid
        rw [List.map_cons, List.map_map, Literal.coerce_operand rfl]
        congr 1
        apply List.map_congr_left
        intro v hv
        exact Literal.coerce_operand (hsame v hv)
      have hlength := Keyword.length_of_takes valid
      rw [← List.length_map Literal.operand] at hlength
      simp only [Intent.condition, entryOf, field.check, keyword.lookup, Operand.listOf_listed]
      dsimp only [bind, Except.bind]
      rw [hlength, typeOf_undeclared, first.operand_valueType, hvalues]
      rfl
  | symbol field sign operand valid =>
      have hvalue := Literal.coerce_operand (v := operand) rfl
      simp only [Intent.condition, entryOf, field.check, Operand.ofText_chars]
      dsimp only [bind, Except.bind]
      rw [typeOf_undeclared, operand.operand_valueType, Sign.valueType_of_takes valid,
        Sign.ordered_of_takes valid, hvalue]
      rfl

theorem entry_chars (how : Conjunction) (i : Intent) :
    entry {} (how, i.chars) = .ok (i.entry how) := by
  rw [entry, Condition.ofText?_chars]
  exact entryOf_condition how _ i

theorem entries_chars (rest : List (Join × Intent)) :
    entries {} (rest.map fun (join, i) => (join.conjunction, i.chars)) =
      (rest.map fun (join, i) => i.entry join.conjunction, none) := by
  induction rest with
  | nil => rfl
  | cons next rest ih =>
      obtain ⟨join, i⟩ := next
      rw [List.map_cons, entries, entry_chars, ih]
      rfl

theorem parse_written (first : Intent) (rest : List (Join × Intent)) :
    parse {} (written first rest) = (meant first rest, none) := by
  rw [parse, split_written, entries, entry_chars, entries_chars]
  rfl

example :
    written (.symbol ⟨"age".toList, rfl, rfl, rfl⟩ .greaterEqual (.whole ⟨-3, by decide⟩) rfl)
      [(.or, .list ⟨"name".toList, rfl, rfl, rfl⟩ .notIn
        (.quoted ⟨'"', "it's (1)".toList, rfl, by decide, by decide⟩) [.quoted
          ⟨'"', "x and y".toList, rfl, by decide, by decide⟩] rfl)] =
      "age>=-3 or name not in (\"it's (1)\", \"x and y\")" := by
  decide

end CriteriaSearch.Filter

namespace CriteriaSearch

open CriteriaSearch.Filter

/-- Without rules for fields, a written filter text adds the entries that it was written from. -/
theorem Criteria.addFilter_written (c : Criteria) (first : Intent) (rest : List (Join × Intent)) :
    c.addFilter {} (written first rest) =
      ({ c with entries := c.entries ++ meant first rest }, none) := by
  rw [addFilter, parse_written]

end CriteriaSearch
