import CriteriaSearch.Proofs.Filter.Outcomes
import CriteriaSearch.Proofs.Number.Numeral

/-!
# Refusals without an explanation

A filter text is refused with an explanation, but for two kinds of conditions. A keyword may be
spelled with a letter that is an i only when case is ignored: then it is no keyword in lower case.
And a whole number without quotes may have too many digits to be read.
-/

namespace CriteriaSearch

open Text

theorem FieldRules.isExplained_check {rules : FieldRules} {field : List Char} {e : FilterError}
    (h : rules.check field = .error e) : e.isExplained = true := by
  unfold check at h
  dsimp only at h
  split_ifs at h
  · obtain rfl := Except.error.inj h
    rfl
  · cases hallowed : rules.allowed with
    | none =>
        rw [hallowed] at h
        cases h
    | some names =>
        rw [hallowed] at h
        dsimp only at h
        split_ifs at h
        obtain rfl := Except.error.inj h
        rfl

namespace Filter

/-! ### Keywords -/

/-- The letters outside ASCII that are an i when case is ignored. -/
def isForeignI (c : Char) : Bool := c == '\u0130' || c == '\u0131'

theorem lowerLetters_eq_map_folded {cs : List Char} (hforeign : ∀ c ∈ cs, isForeignI c = false)
    (hs : 's' ∉ cs.map folded) (hk : 'k' ∉ cs.map folded) : lowerLetters cs = cs.map folded := by
  induction cs with
  | nil => rfl
  | cons c cs ih =>
      obtain ⟨hc, hrest⟩ := List.forall_mem_cons.mp hforeign
      rw [List.map_cons, List.mem_cons, not_or] at hs hk
      have htail := ih hrest hs.2 hk.2
      -- Each of the four letters that folding and lower case treat apart is excluded.
      have hlong : c ≠ '\u017F' := by
        rintro rfl
        exact hs.1 rfl
      have hkelvin : c ≠ '\u212A' := by
        rintro rfl
        exact hk.1 rfl
      have hdotted : c ≠ '\u0130' := by
        rintro rfl
        cases hc
      have hdotless : c ≠ '\u0131' := by
        rintro rfl
        cases hc
      have hfolded : folded c = c.toLower := by simp [folded, hdotted, hdotless, hlong, hkelvin]
      unfold lowerLetters at htail ⊢
      rw [List.flatMap_cons, htail, if_neg hdotted, if_neg hkelvin, List.map_cons, hfolded]
      rfl

theorem not_ascii_of_foreign {cs : List Char} {c : Char} (hc : c ∈ cs)
    (hforeign : isForeignI c = true) : ∃ d ∈ lowerLetters cs, 128 ≤ d.toNat := by
  unfold isForeignI at hforeign
  rcases Bool.or_eq_true_iff.mp hforeign with h | h
  · obtain rfl := eq_of_beq h
    exact ⟨'\u0307', List.mem_flatMap.mpr ⟨_, hc, by simp⟩, by decide⟩
  · obtain rfl := eq_of_beq h
    exact ⟨'\u0131', List.mem_flatMap.mpr ⟨_, hc, by decide⟩, by decide⟩

theorem keywords_ascii : ∀ p ∈ keywords, p.1.toList.all (·.toNat < 128) = true := by decide

theorem keywords_plain : ∀ word ∈ keywords.map Prod.fst,
    's' ∉ word.toList ∧ 'k' ∉ word.toList ∧ (keywords.lookup word).isSome = true := by decide

/-- A keyword is known in lower case unless it has one of these letters. -/
theorem operator?_eq_none_iff {keyword : List Char} {word : String}
    (hmem : word ∈ keywords.map Prod.fst) (hfolded : keyword.map folded = word.toList) :
    operator? keyword = none ↔ keyword.any isForeignI = true := by
  constructor
  · intro hnone
    by_contra hplain
    have hforeign : ∀ c ∈ keyword, isForeignI c = false := by simpa using hplain
    obtain ⟨hs, hk, hsome⟩ := keywords_plain word hmem
    rw [← hfolded] at hs hk
    have hlower := lowerLetters_eq_map_folded hforeign hs hk
    rw [operator?, hlower, hfolded, String.ofList_toList] at hnone
    rw [hnone] at hsome
    cases hsome
  · -- Lower case keeps something of these letters that is not ASCII, as all keywords are.
    intro hany
    obtain ⟨c, hc, hforeign⟩ := List.any_eq_true.mp hany
    obtain ⟨d, hd, hlarge⟩ := not_ascii_of_foreign hc hforeign
    cases hkey : operator? keyword with
    | none => rfl
    | some operator =>
        have hmem : d ∈ (String.ofList (lowerLetters keyword)).toList := by
          rwa [String.toList_ofList]
        have hall := keywords_ascii _ (mem_of_lookup_eq_some hkey)
        have hsmall : d.toNat < 128 := by simpa using List.all_eq_true.mp hall d hmem
        omega

/-! ### Operands -/

namespace Operand

/-- A whole number without quotes that has too many digits. -/
def isOverlong (cs : List Char) : Bool :=
  (unquoted? cs).isNone && numeralForm? cs == some false &&
    decide (Numeral.maxDigits < cs.countP isDigit)

/-- The parts of a whole number. -/
theorem exists_digits_of_numeralForm? {cs : List Char} (h : numeralForm? cs = some false) :
    ∃ pre body, cs = pre ++ body ∧ (pre = [] ∨ pre = ['-']) ∧ body ≠ [] ∧
      ∀ c ∈ body, isDigit c = true := by
  -- The body is the text without its minus.
  have hcs : ∃ pre, cs = pre ++ (if cs.head? = some '-' then cs.drop 1 else cs) ∧
      (pre = [] ∨ pre = ['-']) := by
    cases cs with
    | nil => exact ⟨[], rfl, .inl rfl⟩
    | cons c cs =>
        by_cases hc : c = '-'
        · subst hc
          exact ⟨['-'], rfl, .inr rfl⟩
        · exact ⟨[], by simp [hc], .inl rfl⟩
  obtain ⟨pre, hcs, hpre⟩ := hcs
  unfold numeralForm? at h
  dsimp only at h
  generalize (if cs.head? = some '-' then cs.drop 1 else cs) = body at h hcs
  refine ⟨pre, body, hcs, hpre, ?_⟩
  split at h
  · rename_i whole hsplit
    split_ifs at h with hdigits
    rw [splitAt_eq_singleton hsplit] at hdigits
    simpa using hdigits
  · split_ifs at h
    cases h
  · cases h

theorem int?_eq_none_iff {cs : List Char} (h : numeralForm? cs = some false) :
    Numeral.int? cs = none ↔ Numeral.maxDigits < cs.countP isDigit := by
  obtain ⟨pre, body, rfl, hpre, hne, hbody⟩ := exists_digits_of_numeralForm? h
  have hcount : (pre ++ body).countP isDigit = body.length := by
    rw [List.countP_append, List.countP_eq_length.mpr hbody]
    rcases hpre with rfl | rfl
    · simp
    · rw [List.countP_singleton, if_neg (by decide), Nat.zero_add]
  rw [hcount]
  exact Numeral.int?_eq_none_iff hpre hne hbody

theorem numeralForm?_of_isWord {cs : List Char} {b : Bool} (h : isWord (toString b) cs = true) :
    numeralForm? cs ≠ some false := by
  intro hform
  obtain ⟨pre, body, hcs, -, hne, hbody⟩ := exists_digits_of_numeralForm? hform
  obtain ⟨c, rest, rfl⟩ := List.exists_cons_of_ne_nil hne
  have hdigit : (!c.toLower.isAlpha) = true :=
    Numeral.forall_isDigit (p := fun c => !c.toLower.isAlpha) (by decide +kernel)
      (hbody c List.mem_cons_self)
  have hmem : c.toLower ∈ (toString b).toList := by
    rw [← eq_of_beq h, hcs]
    exact List.mem_map_of_mem (List.mem_append_right pre List.mem_cons_self)
  have halpha : ∀ b : Bool, (toString b).toList.all Char.isAlpha = true := by decide
  rw [List.all_eq_true.mp (halpha b) _ hmem] at hdigit
  cases hdigit

theorem ofText_error_iff (cs : List Char) :
    (∃ e, ofText cs = .error e) ↔ isOverlong cs = true := by
  have houtcome := outcome_ofText cs
  generalize ofText cs = result at houtcome
  unfold isOverlong
  cases houtcome with
  | quoted quotes => simp [quotes]
  | truth b bare word => simp [numeralForm?_of_isWord word]
  | fraction x bare form => simp [form]
  | plain t bare form => simp [form]
  | whole bare form read =>
      have hshort : ¬ Numeral.maxDigits < cs.countP isDigit := by
        rw [← int?_eq_none_iff form, read]
        exact Option.some_ne_none _
      simp [hshort]
  | tooLong bare form read =>
      have hlong := (int?_eq_none_iff form).mp read
      simp [bare, form, hlong]

theorem listOf_error_iff (cs : List Char) :
    (∃ e, listOf cs = .error e) ↔
      (items none [] (unbracketed (trim cs))).any isOverlong = true := by
  unfold listOf
  rw [mapM_fails_iff, List.any_eq_true]
  exact exists_congr fun item => and_congr_right fun _ => ofText_error_iff item

theorem isExplained_of_ofText {cs : List Char} {e : FilterError} (h : ofText cs = .error e) :
    e.isExplained = false := by
  have houtcome := outcome_ofText cs
  rw [h] at houtcome
  cases houtcome
  rfl

theorem isExplained_of_listOf {cs : List Char} {e : FilterError} (h : listOf cs = .error e) :
    e.isExplained = false := by
  obtain ⟨item, -, hitem⟩ := exists_of_mapM_eq_error h
  exact isExplained_of_ofText hitem

end Operand

/-! ### Conditions and filter texts -/

/-- Conditions with a keyword that is none in lower case, or with a number that is too long. -/
def Condition.stumbles : Condition → Bool
  | .sort _ _ => false
  | .list _ keyword operands =>
    keyword.any isForeignI ||
      (items none [] (Operand.unbracketed (trim operands))).any Operand.isOverlong
  | .symbol _ _ _ operand => Operand.isOverlong operand

theorem Condition.stumbles_list_iff {field keyword operands : List Char}
    (hread : (Condition.list field keyword operands).Read) :
    (Condition.list field keyword operands).stumbles = true ↔
      operator? keyword = none ∨ ∃ e, Operand.listOf operands = .error e := by
  cases hread with
  | list mem folded =>
      rw [stumbles, Bool.or_eq_true, operator?_eq_none_iff mem folded, Operand.listOf_error_iff]

theorem Condition.stumbles_symbol_iff (field operand : List Char) (sign : String)
    (operator : Operator) : (Condition.symbol field sign operator operand).stumbles = true ↔
      ∃ e, Operand.ofText operand = .error e := (Operand.ofText_error_iff operand).symm

/-- A failure without an explanation. -/
def IsUnexplained {α : Type} (result : Except FilterError α) : Prop :=
  ∃ e, result = .error e ∧ e.isExplained = false

theorem not_isUnexplained_ok {α : Type} (a : α) : ¬ IsUnexplained (.ok a) := by
  rintro ⟨e, he, -⟩
  cases he

theorem isUnexplained_error_iff {α : Type} {e : FilterError} :
    IsUnexplained (.error e : Except FilterError α) ↔ e.isExplained = false := by
  constructor
  · rintro ⟨e', he', hexplained⟩
    rwa [Except.error.inj he']
  · intro h
    exact ⟨e, rfl, h⟩

variable {rules : FieldRules}

theorem outcome_isUnexplained_iff {how : Conjunction} {text : String} {condition : Condition}
    {result : Except FilterError Criterion} (hread : condition.Read)
    (h : Outcome rules how text condition result) :
    IsUnexplained result ↔
      rules.check condition.field = .ok () ∧ condition.stumbles = true := by
  cases h with
  | badField check =>
      rw [isUnexplained_error_iff, FieldRules.isExplained_check check, check]
      simp
  | sort check =>
      exact iff_of_false (not_isUnexplained_ok _) fun h => absurd h.2 (by simp [Condition.stumbles])
  | badKeyword check key =>
      rw [Condition.stumbles_list_iff hread, isUnexplained_error_iff]
      exact iff_of_true rfl ⟨check, .inl key⟩
  | badItem check key items =>
      rw [Condition.stumbles_list_iff hread, isUnexplained_error_iff]
      exact iff_of_true (Operand.isExplained_of_listOf items) ⟨check, .inr ⟨_, items⟩⟩
  | noItems check key items =>
      rw [Condition.stumbles_list_iff hread, isUnexplained_error_iff, key, items]
      simp [FilterError.isExplained]
  | notTwo check key items =>
      rw [Condition.stumbles_list_iff hread, isUnexplained_error_iff, key, items]
      simp [FilterError.isExplained]
  | list check key items number =>
      rw [Condition.stumbles_list_iff hread, key, items]
      simp [not_isUnexplained_ok]
  | badOperand check read =>
      rw [Condition.stumbles_symbol_iff, isUnexplained_error_iff]
      exact iff_of_true (Operand.isExplained_of_ofText read) ⟨check, _, read⟩
  | notOrdered check read =>
      rw [Condition.stumbles_symbol_iff, isUnexplained_error_iff, read]
      simp [FilterError.isExplained]
  | symbol t check read =>
      rw [Condition.stumbles_symbol_iff, read]
      simp [not_isUnexplained_ok]

theorem entry_isUnexplained_iff (part : Conjunction × List Char) :
    IsUnexplained (entry rules part) ↔ ∃ condition, Condition.ofText? part.2 = some condition ∧
      rules.check condition.field = .ok () ∧ condition.stumbles = true := by
  unfold entry
  cases hcondition : Condition.ofText? part.2 with
  | none => simp [isUnexplained_error_iff, FilterError.isExplained]
  | some condition =>
      have hread := Condition.read_of_ofText? hcondition
      have houtcome := outcome_entryOf rules part.1 (String.ofList part.2) condition
      simpa using outcome_isUnexplained_iff hread houtcome

/-- A filter text is refused without an explanation exactly if the first of its conditions that is
refused is on a field that may be used and stumbles. -/
theorem parse_unexplained_iff (text : String) :
    (∃ e, (parse rules text).2 = some e ∧ e.isExplained = false) ↔
      ∃ before part after condition, split text.toList = before ++ part :: after ∧
        (∀ p ∈ before, ∃ c, entry rules p = .ok c) ∧
        Condition.ofText? part.2 = some condition ∧ rules.check condition.field = .ok () ∧
        condition.stumbles = true := by
  constructor
  · rintro ⟨e, he, hexplained⟩
    obtain ⟨before, part, after, hsplit, hbefore, hpart⟩ := refused_iff.mp he
    obtain ⟨condition, hcondition⟩ := (entry_isUnexplained_iff part).mp ⟨e, hpart, hexplained⟩
    exact ⟨before, part, after, condition, hsplit, hbefore, hcondition⟩
  · rintro ⟨before, part, after, condition, hsplit, hbefore, hcondition⟩
    obtain ⟨e, hpart, hexplained⟩ := (entry_isUnexplained_iff part).mpr ⟨condition, hcondition⟩
    exact ⟨e, refused_iff.mpr ⟨before, part, after, hsplit, hbefore, hpart⟩, hexplained⟩

/-- The dotless i is the letter of a keyword when case is ignored, and no letter of one in lower
case. -/
theorem dotless_unexplained : (parse {} "a \u0131n (1)").1.length = 0 ∧
    ∃ e, (parse {} "a \u0131n (1)").2 = some e ∧ e.isExplained = false :=
  ⟨by decide +kernel, .unknownKeyword, by decide +kernel, rfl⟩

end Filter

end CriteriaSearch
