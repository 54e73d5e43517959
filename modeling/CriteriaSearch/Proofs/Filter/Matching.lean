import CriteriaSearch.Proofs.Filter.Writing

/-!
# Recognizing written conditions

Of the three forms of a condition, tried in turn, a written one has the form it was written in. The
forms are told apart by their first word: only a sort order begins with `sort` before a direction,
and only in a condition with a symbol does the first word go beyond the field.
-/

namespace CriteriaSearch.Filter

open Text

namespace Condition

/-! ### Letter case -/

/-- Characters of fields are those of ASCII. -/
theorem forall_fieldChar {p : Char → Bool} (hp : ∀ n < 123, p (Char.ofNat n) = true) {c : Char}
    (hc : isFieldChar c = true) : p c = true := by
  have hbound := (toNat_of_isFieldChar hc).2
  have h := hp c.toNat (by omega)
  rwa [Char.ofNat_toNat] at h

theorem isFieldChar_folded {c : Char} (hc : isFieldChar c = true) :
    isFieldChar (folded c) = true := by
  have h := forall_fieldChar (p := fun c => !isFieldChar c || isFieldChar (folded c))
    (by decide +kernel) hc
  simpa [hc] using h

theorem isFieldStart_folded {c : Char} (hc : isFieldStart c = true) :
    isFieldStart (folded c) = true := by
  have hfield : isFieldChar c = true := by
    simp only [isFieldStart, isFieldChar, Char.isAlphanum, Bool.or_eq_true] at hc ⊢
    exact hc.imp_left .inl
  have h := forall_fieldChar (p := fun c => !isFieldStart c || isFieldStart (folded c))
    (by decide +kernel) hfield
  simpa [hc] using h

theorem isFoldedField_of_isField {cs : List Char} (hcs : isField cs = true) :
    isFoldedField cs = true := by
  cases cs with
  | nil => exact hcs
  | cons c cs =>
      obtain ⟨hstart, hrest⟩ := Bool.and_eq_true_iff.mp hcs
      refine Bool.and_eq_true_iff.mpr ⟨isFieldStart_folded hstart, ?_⟩
      rw [List.all_map, List.all_eq_true]
      exact fun d hd => isFieldChar_folded (List.all_eq_true.mp hrest d hd)

theorem isFoldedField_eq_false {w : List Char} {c : Char} (hc : c ∈ w)
    (hfolded : isFieldChar (folded c) = false) : isFoldedField w = false := by
  apply Bool.eq_false_iff.mpr
  intro hfield
  have htrue := isFieldChar_of_isField hfield (List.mem_map_of_mem hc)
  rw [hfolded] at htrue
  cases htrue

theorem isFoldedWord_eq_false {word : String} {w : List Char} {c : Char} (hc : c ∈ w)
    (hfolded : folded c ∉ word.toList) : isFoldedWord word w = false := by
  apply Bool.eq_false_iff.mpr
  intro hword
  have heq : w.map folded = word.toList := by simpa [isFoldedWord] using hword
  exact hfolded (heq ▸ List.mem_map_of_mem hc)

/-! ### First words -/

theorem blank_head (tail : List Char) : ∀ c ∈ (' ' :: tail).head?, isBlank c = true :=
  forall_head_cons (by decide) tail

theorem nextWord_append {w rest : List Char} (hw : Solid w)
    (hrest : ∀ c ∈ rest.head?, isBlank c = false) : nextWord (w ++ ' ' :: rest) = (w, rest) := by
  have hblank := blank_head rest
  have hskip : (' ' :: rest).dropWhile isBlank = rest :=
    (List.dropWhile_cons_of_pos (by decide)).trans (dropWhile_of_head hrest)
  rw [nextWord, takeWhile_solid hw hblank, dropWhile_solid hw hblank, hskip]

theorem sort?_eq_none {cs first : List Char} {ws : List (List Char)}
    (hwords : words cs = first :: ws) (hfirst : isFoldedWord "sort" first = false) :
    sort? cs = none := by
  rw [sort?, hwords]
  match ws with
  | [] => rfl
  | [field] => simp [hfirst]
  | [field, direction] => simp [hfirst]
  | _ :: _ :: _ :: _ => rfl

theorem operand?_eq {c : Char} {cs : List Char} (hc : isBlank c = false) (hline : '\n' ∉ c :: cs) :
    operand? (c :: cs) = some (c :: cs) := by
  have hskip : (c :: cs).dropWhile isBlank = c :: cs :=
    dropWhile_of_head (forall_head_cons hc cs)
  have hcontains : (c :: cs).contains '\n' = false := by
    rw [Bool.eq_false_iff]
    exact fun h => hline (List.contains_iff_mem.mp h)
  unfold operand?
  dsimp only
  rw [hskip, hcontains]
  rfl

/-! ### Sort orders -/

theorem words_term {w : List Char} (hw : IsTerm w) (tail : List Char) :
    words (w ++ ' ' :: tail) = w :: words tail := by
  rw [words_append hw.ne_nil hw.solid (blank_head tail), words_blank (by decide)]

theorem sort?_sort (f : FieldName) (d : Direction) :
    sort? (Intent.sort f d).chars = some (.sort f.chars d.name.toList) := by
  have hlast : words d.name.toList = [d.name.toList] := by
    cases d <;> rfl
  have hwords : words (Intent.sort f d).chars = ["sort".toList, f.chars, d.name.toList] := by
    rw [Intent.chars, words_term (by decide), words_term f.isTerm, hlast]
  have hdirection : directions.any (isFoldedWord · d.name.toList) = true := by
    cases d <;> decide
  have hsort : isFoldedWord "sort" "sort".toList = true := by decide
  rw [sort?, hwords]
  simp only [hsort, isFoldedField_of_isField f.isField, hdirection, Bool.and_self, if_true]

/-! ### Lists -/

theorem words_keyword (k : Keyword) (tail : List Char) :
    ∃ first rest, words (k.chars ++ ' ' :: tail) = first :: (rest ++ words tail) ∧
      rest.length ≤ 1 := by
  have hnot : ∀ tail, words ("not".toList ++ ' ' :: tail) = "not".toList :: words tail :=
    words_term (by decide)
  cases k with
  | isIn => exact ⟨_, [], words_term (by decide) tail, by decide⟩
  | between => exact ⟨_, [], words_term (by decide) tail, by decide⟩
  | within => exact ⟨_, [], words_term (by decide) tail, by decide⟩
  | notIn =>
      refine ⟨"not".toList, ["in".toList], ?_, by decide⟩
      exact (hnot ("in".toList ++ ' ' :: tail)).trans
        (congrArg _ (words_term (w := "in".toList) (by decide) tail))
  | notBetween =>
      refine ⟨"not".toList, ["between".toList], ?_, by decide⟩
      exact (hnot ("between".toList ++ ' ' :: tail)).trans
        (congrArg _ (words_term (w := "between".toList) (by decide) tail))

/-- Three words or more, of which the last ones begin with a parenthesis, are no sort order. -/
theorem sort?_list (f : FieldName) (k : Keyword) (tail : List Char) :
    sort? (f.chars ++ ' ' :: (k.chars ++ ' ' :: '(' :: tail)) = none := by
  obtain ⟨first, rest, hkeyword, hrest⟩ := words_keyword k ('(' :: tail)
  obtain ⟨word, ws, hword⟩ := words_cons (c := '(') (by decide) tail
  have hwords : words (f.chars ++ ' ' :: (k.chars ++ ' ' :: '(' :: tail)) =
      f.chars :: first :: (rest ++ ('(' :: word) :: ws) := by
    rw [words_term f.isTerm, hkeyword, hword]
  have hdirection : directions.any (isFoldedWord · ('(' :: word)) = false := by
    have hnot : directions.all (!·.toList.contains (folded '(')) = true := by decide
    rw [List.any_eq_false]
    intro d hd hfolded
    have hmem : folded '(' ∉ d.toList := by
      simpa using List.all_eq_true.mp hnot d hd
    rw [isFoldedWord_eq_false List.mem_cons_self hmem] at hfolded
    cases hfolded
  rw [sort?, hwords]
  match rest, ws with
  | [], [] => simp [hdirection]
  | [], _ :: _ => rfl
  | [_], [] => rfl
  | [_], _ :: _ => rfl
  | _ :: _ :: _, _ => exact absurd hrest (by simp)

theorem operand?_parenthesis {tail : List Char} (hline : '\n' ∉ tail) :
    operand? ('(' :: tail) = some ('(' :: tail) := by
  apply operand?_eq (by decide)
  intro hmem
  rcases List.mem_cons.mp hmem with h | h
  · exact absurd h (by decide)
  · exact hline h

theorem nextWord_parenthesis {w : List Char} (hw : IsTerm w) (tail : List Char) :
    nextWord (w ++ ' ' :: '(' :: tail) = (w, '(' :: tail) :=
  nextWord_append hw.solid (forall_head_cons (by decide) tail)

theorem keyword?_single {w tail : List Char} (hw : IsTerm w)
    (hword : ["in", "between", "within"].any (isFoldedWord · w) = true) (hline : '\n' ∉ tail) :
    keyword? (w ++ ' ' :: '(' :: tail) = some (w, '(' :: tail) := by
  rw [keyword?, nextWord_parenthesis hw]
  dsimp only
  rw [if_pos hword, operand?_parenthesis hline]
  rfl

theorem keyword?_not {w tail : List Char} (hw : IsTerm w)
    (hword : ["in", "between"].any (isFoldedWord · w) = true) (hline : '\n' ∉ tail) :
    keyword? ("not".toList ++ ' ' :: (w ++ ' ' :: '(' :: tail)) =
      some ("not".toList ++ ' ' :: w, '(' :: tail) := by
  have hterm : IsTerm "not".toList := by decide
  have hnot : nextWord ("not".toList ++ ' ' :: (w ++ ' ' :: '(' :: tail)) =
      ("not".toList, w ++ ' ' :: '(' :: tail) :=
    nextWord_append hterm.solid (head_append hw.ne_nil hw.solid _)
  rw [keyword?, hnot]
  dsimp only
  rw [if_neg (by decide), if_pos (by decide), nextWord_parenthesis hw]
  dsimp only
  rw [if_pos hword, operand?_parenthesis hline]
  rfl

theorem keyword?_eq (k : Keyword) {tail : List Char} (hline : '\n' ∉ tail) :
    keyword? (k.chars ++ ' ' :: '(' :: tail) = some (k.chars, '(' :: tail) := by
  cases k with
  | isIn => exact keyword?_single (by decide) (by decide) hline
  | between => exact keyword?_single (by decide) (by decide) hline
  | within => exact keyword?_single (by decide) (by decide) hline
  | notIn => exact keyword?_not (w := "in".toList) (by decide) (by decide) hline
  | notBetween => exact keyword?_not (w := "between".toList) (by decide) (by decide) hline

theorem list?_list (f : FieldName) (k : Keyword) {tail : List Char} (hline : '\n' ∉ tail) :
    list? (f.chars ++ ' ' :: (k.chars ++ ' ' :: '(' :: tail)) =
      some (.list f.chars k.chars ('(' :: tail)) := by
  have hhead : ∀ c ∈ (k.chars ++ ' ' :: '(' :: tail).head?, isBlank c = false := by
    cases k <;> exact forall_head_cons (by decide) _
  rw [list?, nextWord_append f.isTerm.solid hhead]
  dsimp only
  rw [if_pos (isFoldedField_of_isField f.isField), keyword?_eq k hline]
  rfl

/-! ### Symbols -/

/-- The first character of a symbol is in no field and in no word. -/
theorem exists_head_sign (sign : Sign) : ∃ s cs, sign.chars = s :: cs ∧ isBlank s = false ∧
    isFieldChar s = false ∧ isFieldChar (folded s) = false ∧ folded s ∉ "sort".toList := by
  cases sign <;> exact ⟨_, _, rfl, by decide, by decide, by decide, by decide⟩

theorem solid_field_sign (f : FieldName) {s : Char} (hs : isBlank s = false) :
    Solid (f.chars ++ [s]) := by
  intro c hc
  rcases List.mem_append.mp hc with hc | hc
  · exact f.isTerm.solid c hc
  · rwa [List.mem_singleton.mp hc]

theorem sort?_symbol (f : FieldName) (sign : Sign) (tail : List Char) :
    sort? (f.chars ++ (sign.chars ++ tail)) = none := by
  obtain ⟨s, cs, hsign, hblank, -, -, hword⟩ := exists_head_sign sign
  have hchars : f.chars ++ (sign.chars ++ tail) = f.chars ++ [s] ++ (cs ++ tail) := by
    simp [hsign]
  obtain ⟨word, ws, hwords⟩ := words_of_prefix (by simp) (solid_field_sign f hblank) (cs ++ tail)
  rw [hchars]
  have hmem : s ∈ f.chars ++ [s] ++ word := by simp
  exact sort?_eq_none hwords (isFoldedWord_eq_false hmem hword)

theorem list?_symbol (f : FieldName) (sign : Sign) (tail : List Char) :
    list? (f.chars ++ (sign.chars ++ tail)) = none := by
  obtain ⟨s, cs, hsign, hblank, -, hfolded, -⟩ := exists_head_sign sign
  have hchars : f.chars ++ (sign.chars ++ tail) = f.chars ++ [s] ++ (cs ++ tail) := by
    simp [hsign]
  have hsolid : ∀ c ∈ f.chars ++ [s], (!isBlank c) = true := fun c hc => by
    rw [solid_field_sign f hblank c hc, Bool.not_false]
  have hfirst : isFoldedField (nextWord (f.chars ++ (sign.chars ++ tail))).1 = false := by
    rw [nextWord, hchars, List.takeWhile_append_of_pos hsolid]
    exact isFoldedField_eq_false (c := s) (by simp) hfolded
  rw [list?]
  dsimp only
  rw [if_neg (by rw [hfirst]; decide)]

theorem symbol?_symbol (f : FieldName) (sign : Sign) {operand : List Char} (hne : operand ≠ [])
    (hsolid : ∀ c ∈ operand.head?, isBlank c = false) (hequals : '=' ∉ operand.head?)
    (hline : '\n' ∉ operand) :
    symbol? (f.chars ++ (sign.chars ++ operand)) =
      some (.symbol f.chars (String.ofList sign.chars) sign.operator operand) := by
  obtain ⟨s, rest, hsign, hblank, hfield, -, -⟩ := exists_head_sign sign
  have hfieldChars : ∀ d ∈ f.chars, isFieldChar d = true := fun d => f.isFieldChar
  have htake : (f.chars ++ (sign.chars ++ operand)).takeWhile isFieldChar = f.chars := by
    rw [List.takeWhile_append_of_pos hfieldChars, hsign, List.cons_append,
      List.takeWhile_cons_of_neg (by rw [hfield]; decide), List.append_nil]
  have hdrop : ((f.chars ++ (sign.chars ++ operand)).dropWhile isFieldChar).dropWhile isBlank =
      sign.chars ++ operand := by
    rw [List.dropWhile_append_of_pos hfieldChars, hsign, List.cons_append,
      List.dropWhile_cons_of_neg (by rw [hfield]; decide),
      List.dropWhile_cons_of_neg (by rw [hblank]; decide)]
  cases operand with
  | nil => exact absurd rfl hne
  | cons c cs =>
      have hoperand := operand?_eq (hsolid c rfl) hline
      have hequals' : '=' ≠ c := fun h => hequals (h ▸ rfl)
      rw [symbol?]
      dsimp only
      rw [htake, hdrop, if_pos f.isField]
      -- The longer symbols come first; one that only begins like `sign` would go on into `c`.
      cases sign <;> simp [symbols, Sign.chars, Sign.operator, afterPrefix?, hoperand, hequals']

end Condition

/-! ### Conditions -/

/-- The form that a written condition is recognized as. -/
def Intent.condition : Intent → Condition
  | .sort field direction => .sort field.chars direction.name.toList
  | .list field keyword first others _ =>
    .list field.chars keyword.chars ('(' :: (listed first others ++ [')']))
  | .symbol field sign operand _ =>
    .symbol field.chars (String.ofList sign.chars) sign.operator operand.chars

theorem Condition.ofText?_chars (i : Intent) : ofText? i.chars = some i.condition := by
  cases i with
  | sort field direction =>
      rw [ofText?, sort?_sort]
      rfl
  | list field keyword first others valid =>
      have hline : '\n' ∉ listed first others ++ [')'] := by
        intro hmem
        rcases List.mem_append.mp hmem with h | h
        · exact listed_oneLine first others h
        · exact absurd h (by decide)
      rw [ofText?, Intent.chars, sort?_list, list?_list field keyword hline]
      rfl
  | symbol field sign operand valid =>
      have hsymbol := symbol?_symbol field sign operand.ne_nil operand.head_solid
        operand.equals_not_head operand.oneLine
      rw [ofText?, Intent.chars, sort?_symbol, list?_symbol, hsymbol]
      rfl

end CriteriaSearch.Filter
