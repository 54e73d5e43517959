import CriteriaSearch.Criteria.Clause
import CriteriaSearch.Proofs.Lists
import CriteriaSearch.Proofs.Text.Blank

/-!
# Reading text clauses

A clause on texts can be read back: given its field and its operator, it tells the operands it was
made of. Quotes stand around every text with a blank, so that the blanks outside quotes are those
between alternatives. In an escaped text nothing is added but one backslash before each backslash
and double quote, and the quotes of a text with a reserved character.
-/

namespace CriteriaSearch

namespace Clause

/-! ### Readers -/

/-- A text without the backslashes that escape a character; the flag tells whether the first
character is escaped. -/
def unescape : Bool → List Char → List Char
  | _, [] => []
  | true, c :: cs => c :: unescape false cs
  | false, c :: cs => if c = '\\' then unescape true cs else c :: unescape false cs

/-- The text of an operand, in quotes or not. -/
def readTerm : List Char → String
  | [] => ""
  | c :: cs => String.ofList (unescape false (if c = '"' then cs.dropLast else c :: cs))

/-- The pieces between the blanks outside quotes; the flags tell whether the first character is
quoted and escaped. -/
def pieces : Bool → Bool → List Char → List (List Char)
  | _, _, [] => [[]]
  | quoted, true, c :: cs => (pieces quoted false cs).modifyHead (c :: ·)
  | quoted, false, c :: cs =>
    if c = ' ' ∧ quoted = false then [] :: pieces false false cs
    else (pieces (if c = '"' then !quoted else quoted) (c = '\\') cs).modifyHead (c :: ·)

/-- The first, third, fifth item and so on. -/
def everyOther {α : Type} : List α → List α
  | [] => []
  | [a] => [a]
  | a :: _ :: rest => a :: everyOther rest

/-- The operands of what stands after the field and its colon. -/
def readBody : ClauseForm → List Char → List String
  | .single before after, cs =>
    [readTerm ((cs.drop before.length).take (cs.length - before.length - after.length))]
  | .anyOf, cs => (everyOther (pieces false false (cs.drop 1).dropLast)).map readTerm
  | _, _ => []

/-- The operands of a clause on texts. -/
def readTexts (field : String) (operator : Operator) (clause : String) : List String :=
  match ClauseRule.find? .text operator with
  | none => []
  | some rule =>
    readBody rule.form (clause.toList.drop ((if rule.negated then 1 else 0) + field.length + 1))

/-! ### Operands -/

/-- A text and the same text with one backslash before every backslash and double quote. -/
inductive Escapes : List Char → List Char → Prop
  | nil : Escapes [] []
  | special {c : Char} {cs body : List Char} (h : c = '\\' ∨ c = '"') (rest : Escapes cs body) :
      Escapes (c :: cs) ('\\' :: c :: body)
  | plain {c : Char} {cs body : List Char} (h : ¬ (c = '\\' ∨ c = '"')) (rest : Escapes cs body) :
      Escapes (c :: cs) (c :: body)

/-- The characters for which a text is put into quotes. -/
def reserved : List Char := [' ', ':', '-', '+', '/']

theorem needsQuotes_iff (cs : List Char) : needsQuotes cs = true ↔ ∃ c ∈ cs, c ∈ reserved := by
  simp [needsQuotes, reserved, or_assoc]

/-- The characters of an escaped text. -/
abbrev escaped (s : String) : List Char := (escape s).toList

theorem escaped_eq (s : String) : escaped s =
    if needsQuotes s.toList then '"' :: s.toList.flatMap escapeChar ++ ['"']
    else s.toList.flatMap escapeChar := String.toList_ofList

theorem escapeChar_special {c : Char} (h : c = '\\' ∨ c = '"') : escapeChar c = ['\\', c] := by
  rcases h with rfl | rfl <;> rfl

theorem escapeChar_plain {c : Char} (h : ¬ (c = '\\' ∨ c = '"')) : escapeChar c = [c] := by
  simpa [escapeChar] using h

theorem escapes_flatMap_escapeChar (cs : List Char) : Escapes cs (cs.flatMap escapeChar) := by
  induction cs with
  | nil => exact .nil
  | cons c cs ih =>
      rw [List.flatMap_cons]
      by_cases hspecial : c = '\\' ∨ c = '"'
      · rw [escapeChar_special hspecial]
        exact .special hspecial ih
      · rw [escapeChar_plain hspecial]
        exact .plain hspecial ih

theorem unescape_flatMap_escapeChar (cs : List Char) :
    unescape false (cs.flatMap escapeChar) = cs := by
  induction cs with
  | nil => rfl
  | cons c cs ih =>
      rw [List.flatMap_cons]
      by_cases hspecial : c = '\\' ∨ c = '"'
      · simp [escapeChar_special hspecial, unescape, ih]
      · simp [escapeChar_plain hspecial, unescape, ih, not_or.mp hspecial]

theorem readTerm_flatMap_escapeChar (cs : List Char) :
    readTerm (cs.flatMap escapeChar) = String.ofList cs := by
  -- A quote is escaped, so what is not in quotes never starts with one.
  have hunescape := unescape_flatMap_escapeChar cs
  cases cs with
  | nil => rfl
  | cons c cs =>
      rw [List.flatMap_cons] at hunescape ⊢
      by_cases hspecial : c = '\\' ∨ c = '"'
      · rw [escapeChar_special hspecial] at hunescape ⊢
        rw [← hunescape]
        rfl
      · rw [escapeChar_plain hspecial] at hunescape ⊢
        simp only [List.singleton_append] at hunescape ⊢
        rw [readTerm, if_neg (not_or.mp hspecial).2, hunescape]

/-- An escaped text is read back. -/
theorem readTerm_escaped (s : String) : readTerm (escaped s) = s := by
  rw [escaped_eq]
  by_cases hquotes : needsQuotes s.toList = true
  · rw [if_pos hquotes, List.cons_append, readTerm, if_pos rfl, List.dropLast_concat,
      unescape_flatMap_escapeChar, String.ofList_toList]
  · rw [if_neg hquotes, readTerm_flatMap_escapeChar, String.ofList_toList]

theorem escape_injective : Function.Injective escape := fun s t h => by
  rw [← readTerm_escaped s, ← readTerm_escaped t, escaped, escaped, h]

/-- An escaped text stands in quotes exactly if it has a reserved character. -/
theorem escaped_spec (s : String) : ∃ body, Escapes s.toList body ∧
    ((∃ c ∈ s.toList, c ∈ reserved) → escaped s = '"' :: body ++ ['"']) ∧
    ((∀ c ∈ s.toList, c ∉ reserved) → escaped s = body) := by
  refine ⟨_, escapes_flatMap_escapeChar s.toList, fun hquotes => ?_, fun hplain => ?_⟩
  · rw [escaped_eq, if_pos ((needsQuotes_iff _).mpr hquotes)]
  · rw [escaped_eq, if_neg fun hquotes => ?_]
    obtain ⟨c, hc, hreserved⟩ := (needsQuotes_iff _).mp hquotes
    exact hplain c hc hreserved

/-! ### Alternatives -/

/-- Blanks do not matter inside quotes, and a quote that is escaped is none. -/
theorem pieces_flatMap_escapeChar (quoted : Bool) (cs rest : List Char)
    (hblank : quoted = true ∨ ' ' ∉ cs) :
    pieces quoted false (cs.flatMap escapeChar ++ rest) =
      (pieces quoted false rest).modifyHead (cs.flatMap escapeChar ++ ·) := by
  induction cs with
  | nil => cases h : pieces quoted false rest <;> simp [h]
  | cons c cs ih =>
      have hrest : quoted = true ∨ ' ' ∉ cs :=
        hblank.imp_right fun h hmem => h (List.mem_cons_of_mem c hmem)
      have hc : ¬ (c = ' ' ∧ quoted = false) := by
        rintro ⟨rfl, rfl⟩
        simp at hblank
      rw [List.flatMap_cons, List.append_assoc]
      by_cases hspecial : c = '\\' ∨ c = '"'
      · have hfirst : pieces quoted false ('\\' :: c :: (cs.flatMap escapeChar ++ rest)) =
            ((pieces quoted false (cs.flatMap escapeChar ++ rest)).modifyHead
              (c :: ·)).modifyHead ('\\' :: ·) := by
          simp [pieces]
        rw [escapeChar_special hspecial]
        simp only [List.cons_append, List.nil_append]
        rw [hfirst, ih hrest]
        cases pieces quoted false rest <;> simp
      · obtain ⟨hbackslash, hquote⟩ := not_or.mp hspecial
        rw [escapeChar_plain hspecial]
        simp only [List.cons_append, List.nil_append]
        rw [pieces, if_neg hc, if_neg hquote, decide_eq_false hbackslash, ih hrest]
        cases pieces quoted false rest <;> simp

/-- No blank of an escaped text is one between pieces. -/
theorem pieces_escaped_append (s : String) (rest : List Char) :
    pieces false false (escaped s ++ rest) =
      (pieces false false rest).modifyHead (escaped s ++ ·) := by
  rw [escaped_eq]
  by_cases hquotes : needsQuotes s.toList = true
  · rw [if_pos hquotes]
    have hclose : pieces true false ('"' :: rest) =
        (pieces false false rest).modifyHead ('"' :: ·) := by
      simp [pieces]
    simp only [List.cons_append, List.append_assoc, List.nil_append]
    rw [pieces, if_neg (by decide), if_pos rfl]
    rw [show (decide ('"' = '\\')) = false by decide, Bool.not_false,
      pieces_flatMap_escapeChar true _ _ (.inl rfl), hclose]
    cases pieces false false rest <;> simp
  · rw [if_neg hquotes]
    refine pieces_flatMap_escapeChar false _ rest (.inr fun hmem => hquotes ?_)
    exact List.any_eq_true.mpr ⟨' ', hmem, by decide⟩

theorem pieces_separator (rest : List Char) :
    pieces false false (" OR ".toList ++ rest) = [] :: ['O', 'R'] :: pieces false false rest := by
  simp [pieces]

theorem everyOther_pieces_joinWith {values : List String} (hne : values ≠ []) :
    everyOther (pieces false false (Text.joinWith " OR " (values.map escape)).toList) =
      values.map escaped := by
  induction values with
  | nil => exact absurd rfl hne
  | cons v values ih =>
      cases values with
      | nil =>
          have hsingle := pieces_escaped_append v []
          simp only [List.append_nil] at hsingle
          simp [Text.joinWith, hsingle, pieces, everyOther]
      | cons w values =>
          have hrest := ih (List.cons_ne_nil w values)
          simp only [List.map_cons] at hrest ⊢
          rw [Text.toList_joinWith_cons, pieces_escaped_append, pieces_separator]
          simp only [List.modifyHead_cons, List.append_nil, everyOther]
          rw [hrest]

/-! ### Clauses -/

/-- The text for all of the given values in a clause. -/
def listText (values : List String) : String :=
  "(" ++ Text.joinWith " OR " (values.map escape) ++ ")"

/-- What stands before the operands of a clause. -/
def lead (negated : Bool) (field : String) : String :=
  (if negated then "-" else "") ++ field ++ ":"

theorem drop_lead (negated : Bool) (field rest : String) :
    (lead negated field ++ rest).toList.drop ((if negated then 1 else 0) + field.length + 1) =
      rest.toList := by
  have hlength : (if negated then 1 else 0) + field.length + 1 =
      (lead negated field).toList.length := by
    cases negated <;> simp [lead, ← String.length_toList, Nat.add_comm]
  rw [String.toList_append, hlength, List.drop_left]

theorem readTexts_single {operator : Operator} {negated : Bool} {before after : String}
    (hrule : ClauseRule.find? .text operator = some ⟨negated, .single before after⟩)
    (field v : String) :
    readTexts field operator (lead negated field ++ (before ++ escape v ++ after)) = [v] := by
  have hbody : readBody (.single before after) (before ++ escape v ++ after).toList = [v] := by
    have hlength : (before ++ escape v ++ after).toList.length - before.length - after.length =
        (escaped v).length := by
      simp only [String.toList_append, List.length_append, String.length_toList]
      omega
    rw [readBody, hlength]
    simp only [String.toList_append, List.append_assoc]
    rw [← String.length_toList, List.drop_left, List.take_left, readTerm_escaped]
  simp only [readTexts, hrule]
  rw [drop_lead, hbody]

/-- A clause on alternatives is read back. -/
theorem readTexts_anyOf {operator : Operator} {negated : Bool}
    (hrule : ClauseRule.find? .text operator = some ⟨negated, .anyOf⟩) (field : String)
    {values : List String} (hne : values ≠ []) :
    readTexts field operator (lead negated field ++ listText values) = values := by
  have hinner : (((listText values).toList.drop 1).dropLast) =
      (Text.joinWith " OR " (values.map escape)).toList := by
    simp [listText]
  have hterms : (values.map escaped).map readTerm = values := by
    rw [List.map_map]
    exact List.map_id'' (fun v => readTerm_escaped v) values
  simp only [readTexts, hrule]
  rw [drop_lead, readBody, hinner, everyOther_pieces_joinWith hne, hterms]

example : readTexts "id" .isIn "id:(\"a OR b\" OR c)" = ["a OR b", "c"] := by decide

theorem escapedText_text (s : String) : escapedText (.text s) = .ok (some (escape s)) := rfl

theorem termTexts_text (values : List String) :
    termTexts .text (values.map .text) = .ok (some (values.map escape)) := by
  induction values with
  | nil => rfl
  | cons v values ih =>
      simp only [List.map_cons, termTexts, ih, termText, escapedText_text]
      rfl

theorem body_single_text (before after v : String) :
    body .text [.text v] (.single before after) = .ok (some (before ++ escape v ++ after)) := rfl

theorem body_anyOf_text {values : List String} (hne : values ≠ []) :
    body .text (values.map .text) .anyOf = .ok (some (listText values)) := by
  have hfilled : (values.map Value.text).isEmpty = false := by simpa using hne
  rw [body, hfilled, termTexts_text]
  rfl

theorem clause?_eq_lead {c : Criterion} {rule : ClauseRule} {s : String}
    (hrule : ClauseRule.find? c.valueType c.operator = some rule)
    (hbody : body c.valueType c.values rule.form = .ok (some s)) :
    c.clause? = .ok (some (lead rule.negated c.field ++ s)) := by
  simp only [Criterion.clause?, hrule, hbody]
  rfl

variable (field : String) (how : Conjunction)

theorem exists_clause_single {operator : Operator} {negated : Bool} {before after : String}
    (hrule : ClauseRule.find? .text operator = some ⟨negated, .single before after⟩) (v : String) :
    ∃ clause, Criterion.clause? ⟨field, .text, operator, [.text v], how⟩ = .ok (some clause) ∧
      readTexts field operator clause = [v] :=
  ⟨_, clause?_eq_lead hrule (body_single_text before after v), readTexts_single hrule field v⟩

theorem exists_clause_anyOf {operator : Operator} {negated : Bool}
    (hrule : ClauseRule.find? .text operator = some ⟨negated, .anyOf⟩) {values : List String}
    (hne : values ≠ []) :
    ∃ clause, Criterion.clause? ⟨field, .text, operator, values.map .text, how⟩ =
        .ok (some clause) ∧ readTexts field operator clause = values :=
  ⟨_, clause?_eq_lead hrule (body_anyOf_text hne), readTexts_anyOf hrule field hne⟩

/-- Texts are read back from their clauses, one text from each operator on a single text, and all
of a list from each operator on lists. -/
theorem clauses_read_back :
    (∀ operator ∈ [Operator.equal, .notEqual, .contains, .notContains, .startsWith, .endsWith],
      ∀ v : String, ∃ clause,
        Criterion.clause? ⟨field, .text, operator, [.text v], how⟩ = .ok (some clause) ∧
          readTexts field operator clause = [v]) ∧
    (∀ operator ∈ [Operator.isIn, .notIn], ∀ values : List String, values ≠ [] → ∃ clause,
        Criterion.clause? ⟨field, .text, operator, values.map .text, how⟩ = .ok (some clause) ∧
          readTexts field operator clause = values) ∧
    Function.Injective escape ∧
    ∀ s, ∃ body, Escapes s.toList body ∧
      ((∃ c ∈ s.toList, c ∈ reserved) → escaped s = '"' :: body ++ ['"']) ∧
      ((∀ c ∈ s.toList, c ∉ reserved) → escaped s = body) := by
  refine ⟨fun operator hoperator v => ?_, fun operator hoperator values hne => ?_,
    escape_injective, escaped_spec⟩
  · have hrule : ∃ negated before after,
        ClauseRule.find? .text operator = some ⟨negated, .single before after⟩ := by
      simp only [List.mem_cons, List.not_mem_nil, or_false] at hoperator
      rcases hoperator with rfl | rfl | rfl | rfl | rfl | rfl <;> exact ⟨_, _, _, rfl⟩
    obtain ⟨negated, before, after, hrule⟩ := hrule
    exact exists_clause_single field how hrule v
  · have hrule : ∃ negated, ClauseRule.find? .text operator = some ⟨negated, .anyOf⟩ := by
      simp only [List.mem_cons, List.not_mem_nil, or_false] at hoperator
      rcases hoperator with rfl | rfl <;> exact ⟨_, rfl⟩
    obtain ⟨negated, hrule⟩ := hrule
    exact exists_clause_anyOf field how hrule hne

/-- Texts with separators, quotes and backslashes, and with nothing at all. -/
def awkwardTitles : List String := ["a OR b", "", "say \"hi\"", "OR", "C:\\"]

theorem awkwardTitles_read : awkwardTitles ≠ [] ∧
    Criterion.clause? ⟨"title", .text, .notIn, awkwardTitles.map .text, .or⟩ =
      .ok (some "-title:(\"a OR b\" OR  OR \"say \\\"hi\\\"\" OR OR OR \"C:\\\\\")") ∧
    readTexts "title" .notIn
      "-title:(\"a OR b\" OR  OR \"say \\\"hi\\\"\" OR OR OR \"C:\\\\\")" = awkwardTitles := by
  have hclause : Criterion.clause? ⟨"title", .text, .notIn, awkwardTitles.map .text, .or⟩ =
      .ok (some "-title:(\"a OR b\" OR  OR \"say \\\"hi\\\"\" OR OR OR \"C:\\\\\")") := by
    decide +kernel
  have hne : awkwardTitles ≠ [] := by decide
  obtain ⟨clause, hsome, hread⟩ :=
    (clauses_read_back "title" .or).2.1 .notIn (by decide) awkwardTitles hne
  obtain rfl := Option.some.inj (Except.ok.inj (hsome.symm.trans hclause))
  exact ⟨hne, hclause, hread⟩

end Clause

end CriteriaSearch
