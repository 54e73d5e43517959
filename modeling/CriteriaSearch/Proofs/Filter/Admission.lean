import CriteriaSearch.Proofs.Filter.Joining
import CriteriaSearch.Proofs.Filter.Outcomes

/-!
# What a filter text may add

A filter text only adds entries on allowed fields, behind those that are there. If it is refused, it
adds what its text up to the connector before the refused condition adds by itself.
-/

namespace CriteriaSearch.Filter

open Text

/-! ### Connectors -/

/-- The words that join conditions. -/
def joinWords : List (String × Conjunction) := [("and", .and), ("or", .or)]

/-- The connectors at the front of a text. -/
inductive Connects (before : Option Char) : List Char → Conjunction × Nat → Prop
  | comma (cs : List Char) : Connects before (',' :: cs) (.and, 1)
  | word {cs : List Char} {word : String} {how : Conjunction} (mem : (word, how) ∈ joinWords)
      (free : before.all isBlank = true) (begins : beginsWithWord word cs = true) :
      Connects before cs (how, word.length)

/-- The first letter of a word at the front of a text. -/
theorem head_of_beginsWithWord {word : String} {cs : List Char} {letter : Char}
    (hword : word.toList.head? = some letter) (h : beginsWithWord word cs = true) :
    cs.head?.map Char.toLower = some letter := by
  rw [← lower_take_of_beginsWithWord h, lower] at hword
  cases cs with
  | nil => simp at hword
  | cons c cs =>
      cases hlength : word.length with
      | zero => simp [hlength] at hword
      | succ n =>
          rw [hlength, List.take_succ_cons, List.map_cons] at hword
          exact hword

theorem connector?_eq_some_iff {before : Option Char} {cs : List Char}
    {found : Conjunction × Nat} :
    connector? before cs = some found ↔ Connects before cs found := by
  constructor
  · intro h
    unfold connector? at h
    split_ifs at h with hcomma hbefore hand hor
    · obtain rfl := Option.some.inj h
      obtain ⟨rest, rfl⟩ := List.head?_eq_some_iff.mp hcomma
      exact .comma rest
    · obtain rfl := Option.some.inj h
      have hmem : ("and", Conjunction.and) ∈ joinWords := List.mem_cons_self
      exact .word hmem (by simpa using hbefore) hand
    · obtain rfl := Option.some.inj h
      have hmem : ("or", Conjunction.or) ∈ joinWords := List.mem_cons_of_mem _ List.mem_cons_self
      exact .word hmem (by simpa using hbefore) hor
  · intro h
    cases h with
    | comma cs => rfl
    | @word _ word how mem free begins =>
        have hwords : word = "and" ∧ how = .and ∨ word = "or" ∧ how = .or := by
          simpa [joinWords] using mem
        have hcomma : cs.head?.map Char.toLower ≠ some ',' → cs.head? ≠ some ',' := by
          intro hother heq
          rw [heq] at hother
          exact hother rfl
        -- The first letter tells the comma and the two words apart.
        rcases hwords with ⟨rfl, rfl⟩ | ⟨rfl, rfl⟩
        · have hhead : cs.head?.map Char.toLower = some 'a' := head_of_beginsWithWord rfl begins
          have hfirst := hcomma (by rw [hhead]; decide)
          rw [connector?, if_neg hfirst, if_neg (by simp [free]), if_pos begins]
          rfl
        · have hhead : cs.head?.map Char.toLower = some 'o' := head_of_beginsWithWord rfl begins
          have hfirst := hcomma (by rw [hhead]; decide)
          have hand : ¬ beginsWithWord "and" cs = true := by
            intro hand
            have hother : cs.head?.map Char.toLower = some 'a' := head_of_beginsWithWord rfl hand
            rw [hother] at hhead
            cases hhead
          rw [connector?, if_neg hfirst, if_neg (by simp [free]), if_neg hand, if_pos begins]
          rfl

/-! ### Texts that are cut off -/

theorem beginsWithWord_append {word : String} {u : List Char} (h : word.length < u.length)
    (w : List Char) : beginsWithWord word (u ++ w) = beginsWithWord word u := by
  unfold beginsWithWord
  rw [List.take_append_of_le_length h.le, List.getElem?_append_left h]

/-- A word stays where the text is cut off behind it. -/
theorem beginsWithWord_front {word : String} {u w : List Char} (hle : word.length ≤ u.length)
    (h : beginsWithWord word (u ++ w) = true) : beginsWithWord word u = true := by
  rcases hle.lt_or_eq with hlt | heq
  · rwa [beginsWithWord_append hlt] at h
  · rw [beginsWithWord, Bool.and_eq_true, List.take_append_of_le_length hle] at h
    rw [beginsWithWord, h.1, heq, List.getElem?_length]
    rfl

/-- A connector stays where the text is cut off behind it. -/
theorem Position.connector?_front {p : Position} {u w : List Char} {how : Conjunction}
    {width : Nat} (hle : width ≤ u.length) (h : p.connector? (u ++ w) = some (how, width)) :
    p.connector? u = some (how, width) := by
  unfold Position.connector? at h ⊢
  split_ifs at h ⊢
  rw [connector?_eq_some_iff] at h ⊢
  generalize hcs : u ++ w = cs at h
  cases h with
  | comma cs =>
      cases u with
      | nil => exact absurd hle (by decide)
      | cons c u =>
          obtain ⟨rfl, -⟩ := List.cons.inj hcs
          exact .comma u
  | word mem free begins =>
      subst hcs
      exact .word mem free (beginsWithWord_front hle begins)

theorem Position.connector?_width {p : Position} {cs : List Char} {how : Conjunction} {width : Nat}
    (h : p.connector? cs = some (how, width)) : 0 < width ∧ width ≤ cs.length := by
  unfold Position.connector? at h
  split_ifs at h
  obtain ⟨-, hpos, hle, -⟩ := connector?_spec h
  exact ⟨hpos, hle⟩

/-- Where a connector only begins because the text is cut off behind its word, the rest of this word
is all that the scan still sees. -/
theorem join_not_mem_of_cut {p : Position} {c : Char} {u w : List Char} (hskip : p.skip = 0)
    (hwhole : p.connector? (c :: (u ++ w)) = none) (hcut : p.connector? (c :: u) ≠ none)
    (how : Conjunction) : .join how ∉ tokens (p.pass c) u := by
  obtain ⟨found, hfound⟩ := Option.ne_none_iff_exists'.mp hcut
  unfold Position.connector? at hwhole hfound
  split_ifs at hwhole hfound with houtside
  obtain ⟨hquote, hdepth⟩ : p.quote = none ∧ p.depth = 0 := by simpa using houtside
  rw [connector?_eq_some_iff] at hfound
  cases hfound with
  | comma => cases hwhole
  | @word _ word how' mem free begins =>
      have hletters : ∀ q ∈ joinWords, q.1.toList.all Char.isAlpha = true := by decide
      have hlong : (c :: u).length ≤ word.length := by
        by_contra hshort
        rw [← beginsWithWord_append (Nat.lt_of_not_le hshort) w] at begins
        have hsome := connector?_eq_some_iff.mpr (.word mem free begins)
        rw [List.cons_append, hwhole] at hsome
        cases hsome
      have hplain := plain_of_beginsWithWord (hletters _ mem) begins
      rw [List.take_of_length_le hlong] at hplain
      obtain ⟨hc, hu⟩ := List.forall_mem_cons.mp hplain
      have hpass : p.pass c = outside 0 (some c) := by
        have hp : p = outside 0 p.before := by
          obtain ⟨quote, depth, before, skip⟩ := p
          subst hskip hquote hdepth
          rfl
        rw [hp, pass_plain hc]
      rw [hpass]
      cases u with
      | nil => exact List.not_mem_nil
      | cons d u =>
          have hcomma : d ≠ ',' := by
            rintro rfl
            exact absurd (hu _ List.mem_cons_self) (by decide)
          have hblank : isBlank c = false := solid_of_plain hplain c List.mem_cons_self
          have hstart : (outside 0 (some c)).connector? ((d :: u) ++ []) = none := by
            rw [List.append_nil]
            exact connector?_behind hblank hcomma 0 u
          obtain ⟨e, -, hread⟩ := reads_word hu (List.cons_ne_nil d u) hstart
          rw [Reads, List.append_nil] at hread
          rw [hread]
          simp [tokens]

section Steps

variable {p : Position} {c : Char} {cs : List Char}

theorem tokens_skip (hskip : p.skip ≠ 0) :
    tokens p (c :: cs) = tokens { p with before := some c, skip := p.skip - 1 } cs := by
  rw [tokens, if_pos hskip]

theorem tokens_char (hskip : p.skip = 0) (hnone : p.connector? (c :: cs) = none) :
    tokens p (c :: cs) = .char c :: tokens (p.pass c) cs := by
  rw [tokens, if_neg (not_not_intro hskip), hnone]

theorem tokens_join_cons (hskip : p.skip = 0) {how : Conjunction} {width : Nat}
    (hfound : p.connector? (c :: cs) = some (how, width)) : tokens p (c :: cs) =
      .join how :: tokens { p with before := some c, skip := width - 1 } cs := by
  rw [tokens, if_neg (not_not_intro hskip), hfound]

theorem tokens_skipped (h : cs.length ≤ p.skip) : tokens p cs = [] := by
  induction cs generalizing p with
  | nil => rfl
  | cons c cs ih =>
      rw [List.length_cons] at h
      have hskip : p.skip ≠ 0 := by omega
      rw [tokens_skip hskip]
      exact ih (Nat.le_sub_one_of_lt h)

/-- A connector is the only token of a text that ends with it. -/
theorem tokens_cut (hskip : p.skip = 0) {how : Conjunction} {width : Nat}
    (hfound : p.connector? (c :: cs) = some (how, width)) :
    tokens p (c :: cs.take (width - 1)) = [.join how] := by
  obtain ⟨hpos, hle⟩ := p.connector?_width hfound
  have hwidth : width ≤ (c :: cs.take (width - 1)).length := by
    rw [List.length_cons] at hle
    rw [List.length_cons, List.length_take]
    omega
  rw [← List.take_append_drop (width - 1) cs, ← List.cons_append] at hfound
  rw [tokens_join_cons hskip (p.connector?_front hwidth hfound),
    tokens_skipped (List.length_take_le _ _)]

end Steps

/-- Up to a connector, a text has the same tokens if it ends there. -/
theorem tokens_front {p : Position} {cs : List Char} {ts us : List Token} {how : Conjunction}
    (h : tokens p cs = ts ++ .join how :: us) :
    ∃ front rest, cs = front ++ rest ∧ tokens p front = ts ++ [.join how] := by
  induction cs generalizing p ts with
  | nil => simp [tokens] at h
  | cons c cs ih =>
      by_cases hskip : p.skip = 0
      · cases hfound : p.connector? (c :: cs) with
        | none =>
            rw [tokens_char hskip hfound] at h
            cases ts with
            | nil => cases h
            | cons t ts =>
                obtain ⟨rfl, htail⟩ := List.cons.inj h
                obtain ⟨front, rest, rfl, hfront⟩ := ih htail
                have hnone : p.connector? (c :: front) = none := by
                  by_contra hcut
                  apply join_not_mem_of_cut hskip hfound hcut how
                  rw [hfront]
                  exact List.mem_append_right ts List.mem_cons_self
                refine ⟨c :: front, rest, rfl, ?_⟩
                rw [tokens_char hskip hnone, hfront, List.cons_append]
        | some found =>
            obtain ⟨next, width⟩ := found
            rw [tokens_join_cons hskip hfound] at h
            cases ts with
            | nil =>
                -- The text ends with this connector.
                obtain ⟨hnext, -⟩ := List.cons.inj h
                obtain rfl := Token.join.inj hnext
                refine ⟨c :: cs.take (width - 1), cs.drop (width - 1), ?_, tokens_cut hskip hfound⟩
                rw [List.cons_append, List.take_append_drop]
            | cons t ts =>
                obtain ⟨rfl, htail⟩ := List.cons.inj h
                obtain ⟨front, rest, rfl, hfront⟩ := ih htail
                have hwidth : width ≤ (c :: front).length := by
                  by_contra hshort
                  have hskipped : front.length ≤ width - 1 := by
                    rw [List.length_cons] at hshort
                    omega
                  rw [tokens_skipped hskipped] at hfront
                  simp at hfront
                rw [← List.cons_append] at hfound
                refine ⟨c :: front, rest, rfl, ?_⟩
                rw [tokens_join_cons hskip (p.connector?_front hwidth hfound), hfront,
                  List.cons_append]
      · rw [tokens_skip hskip] at h
        obtain ⟨front, rest, rfl, hfront⟩ := ih h
        refine ⟨c :: front, rest, rfl, ?_⟩
        rw [tokens_skip hskip, hfront]

/-! ### Conditions up to one of them -/

/-- Of several conditions every one but the last stands before a connector. -/
theorem exists_join_of_conditions {how : Conjunction} {seen : List Char} {ts : List Token}
    {before after : List (Conjunction × List Char)} {part : Conjunction × List Char}
    (h : conditions how seen ts = before ++ part :: after) (hne : before ≠ []) :
    ∃ us next vs, ts = us ++ .join next :: vs ∧ conditions how seen us = before := by
  induction ts generalizing how seen before with
  | nil =>
      have hlength := congrArg List.length h
      have hpos := List.length_pos_iff.mpr hne
      rw [List.length_append, List.length_cons, conditions] at hlength
      cases htrim : trim seen.reverse with
      | nil => simp [htrim] at hlength
      | cons c text =>
          rw [htrim] at hlength
          dsimp only [List.length_singleton] at hlength
          omega
  | cons t ts ih =>
      cases t with
      | char c =>
          obtain ⟨us, next, vs, rfl, hus⟩ := ih h hne
          exact ⟨.char c :: us, next, vs, rfl, hus⟩
      | join next =>
          rw [conditions] at h
          cases htrim : trim seen.reverse with
          | nil =>
              rw [htrim] at h
              obtain ⟨us, last, vs, rfl, hus⟩ := ih h hne
              refine ⟨.join next :: us, last, vs, rfl, ?_⟩
              rw [conditions, htrim]
              exact hus
          | cons c text =>
              rw [htrim] at h
              obtain ⟨first, before, rfl⟩ := List.exists_cons_of_ne_nil hne
              obtain ⟨rfl, hrest⟩ := List.cons.inj h
              by_cases hlast : before = []
              · subst hlast
                refine ⟨[], next, ts, rfl, ?_⟩
                rw [conditions, htrim]
              · obtain ⟨us, last, vs, rfl, hus⟩ := ih hrest hlast
                refine ⟨.join next :: us, last, vs, rfl, ?_⟩
                rw [conditions, htrim]
                exact congrArg _ hus

/-- The conditions before one of them are those of the text up to a connector. -/
theorem split_front {cs : List Char} {before after : List (Conjunction × List Char)}
    {part : Conjunction × List Char} (h : split cs = before ++ part :: after) :
    ∃ front rest, cs = front ++ rest ∧ split front = before := by
  by_cases hne : before = []
  · exact ⟨[], cs, rfl, hne.symm⟩
  · obtain ⟨us, next, vs, htokens, hus⟩ := exists_join_of_conditions h hne
    obtain ⟨front, rest, hcs, hfront⟩ := tokens_front htokens
    refine ⟨front, rest, hcs, ?_⟩
    rw [split, hfront, conditions_append_join (.and, []) next us [], hus]
    exact List.append_nil before

end CriteriaSearch.Filter

namespace CriteriaSearch

open CriteriaSearch.Filter

/-! ### Fields -/

theorem FieldRules.check_eq_ok_iff {rules : FieldRules} {field : List Char} :
    rules.check field = .ok () ↔ Condition.isField field = true ∧
      ∀ names, rules.allowed = some names → String.ofList field ∈ names := by
  unfold check
  dsimp only
  cases hfield : Condition.isField field with
  | false => simp
  | true =>
      cases hallowed : rules.allowed with
      | none => simp
      | some names => simp

namespace Filter

variable {rules : FieldRules}

/-- The field of an entry is the one that was checked. -/
theorem check_of_entry {part : Conjunction × List Char} {c : Criterion}
    (h : entry rules part = .ok c) : rules.check c.field.toList = .ok () := by
  unfold entry at h
  cases hcondition : Condition.ofText? part.2 with
  | none =>
      rw [hcondition] at h
      cases h
  | some condition =>
      have houtcome := outcome_entryOf rules part.1 (String.ofList part.2) condition
      rw [hcondition] at h
      dsimp only at h
      rw [h] at houtcome
      cases houtcome <;> rwa [String.toList_ofList]

theorem check_of_mem_entries {parts : List (Conjunction × List Char)} {c : Criterion}
    (hc : c ∈ (entries rules parts).1) : rules.check c.field.toList = .ok () := by
  induction parts with
  | nil => cases hc
  | cons part parts ih =>
      rw [entries] at hc
      cases hentry : entry rules part with
      | error e =>
          rw [hentry] at hc
          cases hc
      | ok first =>
          rw [hentry] at hc
          rcases List.mem_cons.mp hc with rfl | hc
          · exact check_of_entry hentry
          · exact ih hc

/-- A condition that is refused leaves the entries of those before it. -/
theorem entries_of_refused {before : List (Conjunction × List Char)}
    {part : Conjunction × List Char} {e : FilterError}
    (hbefore : ∀ p ∈ before, ∃ c, entry rules p = .ok c) (hpart : entry rules part = .error e)
    (after : List (Conjunction × List Char)) :
    entries rules (before ++ part :: after) = ((entries rules before).1, some e) ∧
      (entries rules before).2 = none := by
  induction before with
  | nil =>
      simp [entries, hpart]
  | cons p before ih =>
      obtain ⟨⟨c, hc⟩, hrest⟩ := List.forall_mem_cons.mp hbefore
      obtain ⟨hwhole, hnone⟩ := ih hrest
      rw [List.cons_append, entries, entries, hc, hwhole]
      exact ⟨rfl, hnone⟩

end Filter

namespace Criteria

/-- A filter text leaves all criteria as they are and appends entries on allowed fields, none of
them a directive unless the name of a directive is allowed. If it is refused, there is a condition
that is refused for this reason, and the text up to the connector before it appends the same entries
without an error. -/
theorem addFilter_confined (c : Criteria) (names : List String) (types : Named ValueType)
    (text : String) :
    ∃ added error,
      c.addFilter ⟨some names, types⟩ text = ({ c with entries := c.entries ++ added }, error) ∧
      (∀ entry ∈ added, Condition.isField entry.field.toList = true ∧ entry.field ∈ names) ∧
      (∀ e, error = some e → ∃ front rest part after,
        text = front ++ rest ∧ split text.toList = split front.toList ++ part :: after ∧
        entry ⟨some names, types⟩ part = .error e ∧
        c.addFilter ⟨some names, types⟩ front =
          ({ c with entries := c.entries ++ added }, none)) ∧
      ((∀ name ∈ names, Control.lead.toList.isPrefixOf name.toList = false) →
        ∀ entry ∈ added, entry.isControl = false) := by
  have hfields : ∀ entry ∈ (parse ⟨some names, types⟩ text).1,
      Condition.isField entry.field.toList = true ∧ entry.field ∈ names := by
    intro entry hentry
    obtain ⟨hfield, hallowed⟩ := FieldRules.check_eq_ok_iff.mp (check_of_mem_entries hentry)
    refine ⟨hfield, ?_⟩
    rw [← String.ofList_toList (s := entry.field)]
    exact hallowed names rfl
  refine ⟨_, _, rfl, hfields, ?_, ?_⟩
  · intro e he
    obtain ⟨before, part, after, hsplit, hbefore, hpart⟩ := refused_iff.mp he
    obtain ⟨front, rest, htext, hfront⟩ := split_front hsplit
    obtain ⟨hwhole, hnone⟩ := entries_of_refused hbefore hpart after
    refine ⟨String.ofList front, String.ofList rest, part, after, ?_, ?_, hpart, ?_⟩
    · rw [← String.ofList_append, ← htext, String.ofList_toList]
    · rw [String.toList_ofList, hfront, hsplit]
    · have hadded : parse ⟨some names, types⟩ (String.ofList front) =
          ((parse ⟨some names, types⟩ text).1, none) := by
        rw [parse, parse, String.toList_ofList, hfront, hsplit, hwhole]
        exact Prod.ext rfl hnone
      rw [addFilter, hadded]
      rfl
  · intro hplain entry hentry
    exact hplain entry.field (hfields entry hentry).2

/-- A condition that names the directive of the URL is refused, behind one that is kept. -/
theorem smuggledUrl_confined :
    let result := ({} : Criteria).addFilter ⟨some ["kind"], []⟩
      "kind=memo and solr__url='http://h/s' or kind=note"
    result.1.entries.map (·.field) = ["kind"] ∧
      result.2 = some (.unknownField "solr__url" ["kind"]) ∧
      ∀ entry ∈ result.1.entries, entry.isControl = false := by
  obtain ⟨added, error, hresult, -, -, hplain⟩ := addFilter_confined {} ["kind"] []
    "kind=memo and solr__url='http://h/s' or kind=note"
  have hname : ∀ name ∈ ["kind"], Control.lead.toList.isPrefixOf name.toList = false :=
    List.forall_mem_singleton.mpr (by decide)
  refine ⟨by decide +kernel, by decide +kernel, ?_⟩
  rw [hresult]
  exact hplain hname

end Criteria

end CriteriaSearch
