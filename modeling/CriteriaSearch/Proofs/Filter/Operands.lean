import CriteriaSearch.Proofs.Filter.Matching
import CriteriaSearch.Proofs.Lists

/-!
# Reading written operands

A written literal is read as the value it was written from. In a list each literal becomes one item:
commas and parentheses between its quotes separate nothing.
-/

namespace CriteriaSearch.Filter

open Text

/-! ### Literals -/

/-- A literal as it is read. -/
def Literal.operand : Literal → Operand
  | .quoted q => ⟨.text (String.ofList q.body), .text, q.body⟩
  | v => ⟨v.value, v.valueType, v.chars⟩

@[simp]
theorem Literal.operand_valueType (v : Literal) : v.operand.valueType = v.valueType := by
  cases v <;> rfl

theorem Literal.coerce_operand {v : Literal} {t : ValueType} (ht : v.valueType = t) :
    v.operand.coerce t = v.value := by
  rw [Operand.coerce, if_pos (by rw [v.operand_valueType, ht])]
  cases v <;> rfl

/-- A numeral is no word. -/
theorem Whole.isWord_eq_false (n : Whole) (word : String)
    (hword : word.toList.all Char.isAlpha = true) :
    isWord word (Literal.whole n).chars = false := by
  apply Bool.eq_false_iff.mpr
  intro htrue
  have hletters := isAlpha_of_lower hword (eq_of_beq htrue)
  cases hchars : (Literal.whole n).chars with
  | nil => exact n.ne_nil hchars
  | cons c cs =>
      have halpha := hletters c (hchars ▸ List.mem_cons_self)
      rcases Whole.mem_chars (hchars ▸ List.mem_cons_self) with rfl | hdigit
      · exact absurd halpha (by decide)
      · have hlow := (toNat_of_isAlpha halpha).1
        have hhigh := (Numeral.toNat_of_isDigit hdigit).2
        omega

namespace Operand

theorem unquoted?_quoted (q : Quotation) : unquoted? (Literal.quoted q).chars = some q.body := by
  rw [Literal.chars, unquoted?, List.getLast?_concat, q.isQuote]
  simp

theorem unquoted?_whole (n : Whole) : unquoted? (Literal.whole n).chars = none := by
  cases hchars : (Literal.whole n).chars with
  | nil => rfl
  | cons c cs =>
      have hquote := isQuote_of_plain (Whole.plain (hchars ▸ List.mem_cons_self))
      rw [unquoted?, hquote]
      rfl

theorem numeralForm?_of_digits {cs : List Char} {n : Nat}
    (hbody : (if cs.head? = some '-' then cs.drop 1 else cs) = Numeral.digitsOf n) :
    numeralForm? cs = some false := by
  have hdot : '.' ∉ Numeral.digitsOf n := fun hmem =>
    absurd (Numeral.isDigit_of_mem_digitsOf hmem) (by decide)
  have hne : (Numeral.digitsOf n).isEmpty = false := by
    simpa using Numeral.digitsOf_ne_nil n
  have hall : (Numeral.digitsOf n).all isDigit = true := by
    rw [List.all_eq_true]
    exact fun c hc => Numeral.isDigit_of_isDigit (Numeral.isDigit_of_mem_digitsOf hc)
  unfold numeralForm?
  dsimp only
  rw [hbody, splitAt_of_not_mem hdot]
  simp [hne, hall]

theorem numeralForm?_text (n : Int) : numeralForm? (Numeral.text n).toList = some false := by
  cases n with
  | ofNat n =>
      apply numeralForm?_of_digits (n := n)
      rw [Int.ofNat_eq_natCast, Numeral.text_natCast, if_neg]
      intro hminus
      have hmem := List.mem_of_mem_head? hminus
      exact absurd (Numeral.isDigit_of_mem_digitsOf hmem) (by decide)
  | negSucc n =>
      apply numeralForm?_of_digits (n := n + 1)
      rw [Numeral.text_negSucc]
      rfl

/-- A literal is read as its value. -/
theorem ofText_chars (v : Literal) : ofText v.chars = .ok v.operand := by
  cases v with
  | whole n =>
      have htrue := n.isWord_eq_false "true" (by decide)
      have hfalse := n.isWord_eq_false "false" (by decide)
      rw [ofText, unquoted?_whole, htrue, hfalse]
      dsimp only
      rw [if_neg (by decide), if_neg (by decide), Literal.chars_whole, numeralForm?_text,
        Numeral.int?_text n.fits]
      rfl
  | truth b => cases b <;> rfl
  | quoted q =>
      rw [ofText, unquoted?_quoted]
      rfl

end Operand

/-! ### Items of lists -/

theorem items_plain {w : List Char} (hw : ∀ c ∈ w, plain c = true) (seen tail : List Char) :
    items none seen (w ++ tail) = items none (w.reverse ++ seen) tail := by
  induction w generalizing seen with
  | nil => rfl
  | cons c w ih =>
      have hc := hw c List.mem_cons_self
      have hcomma : c ≠ ',' := by
        rintro rfl
        exact absurd hc (by decide)
      have hrest := ih (fun d hd => hw d (List.mem_cons_of_mem c hd)) (c :: seen)
      rw [List.cons_append, items, isQuote_of_plain hc, if_neg (by decide), if_neg hcomma, hrest,
        List.reverse_cons, List.append_assoc]
      rfl

theorem items_body {q : Char} {body : List Char} (hbody : q ∉ body) (seen tail : List Char) :
    items (some q) seen (body ++ q :: tail) = items none (q :: (body.reverse ++ seen)) tail := by
  induction body generalizing seen with
  | nil => rw [List.nil_append, items, if_pos rfl, List.reverse_nil, List.nil_append]
  | cons c body ih =>
      have hne : c ≠ q := fun heq => hbody (heq ▸ List.mem_cons_self)
      have hrest := ih (fun hmem => hbody (List.mem_cons_of_mem c hmem)) (c :: seen)
      rw [List.cons_append, items, if_neg hne, hrest, List.reverse_cons, List.append_assoc]
      rfl

theorem items_literal (v : Literal) (seen tail : List Char) :
    items none seen (v.chars ++ tail) = items none (v.chars.reverse ++ seen) tail := by
  rcases v.plain_or_quoted with ⟨-, hplain⟩ | ⟨q, rfl⟩
  · exact items_plain hplain seen tail
  · have hbody := items_body q.closed (q.quote :: seen) tail
    have hchars : (Literal.quoted q).chars ++ tail = q.quote :: (q.body ++ q.quote :: tail) := by
      simp [Literal.chars]
    rw [hchars, items, if_pos q.isQuote, hbody]
    simp [Literal.chars]

/-- The items of a list are its literals. -/
theorem items_listed (first : Literal) (others : List Literal) {pad : List Char}
    (hpad : ∀ c ∈ pad, isBlank c = true) :
    items none pad (listed first others) = first.chars :: others.map Literal.chars := by
  have htrim := trim_seen hpad (List.forall_mem_nil _) first.head_solid first.last_solid
  rw [List.reverse_nil, List.nil_append] at htrim
  induction others generalizing first pad with
  | nil =>
      rw [listed, items_literal, List.flatMap_nil, items, htrim]
      cases hchars : first.chars with
      | nil => exact absurd hchars first.ne_nil
      | cons c cs => rfl
  | cons v others ih =>
      have hlisted : listed first (v :: others) = first.chars ++ ',' :: ' ' :: listed v others := by
        simp [listed]
      have hblank : ∀ c ∈ [' '], isBlank c = true := List.forall_mem_singleton.mpr (by decide)
      have hrest := ih v hblank
        (trim_seen hblank (List.forall_mem_nil _) v.head_solid v.last_solid)
      rw [hlisted, items_literal, items, if_neg (by decide), if_pos rfl, htrim]
      cases hchars : first.chars with
      | nil => exact absurd hchars first.ne_nil
      | cons c cs =>
          dsimp only
          rw [items, if_neg (by decide), if_neg (by decide), hrest]
          rfl

namespace Operand

theorem unbracketed_parentheses (cs : List Char) : unbracketed ('(' :: (cs ++ [')'])) = cs := by
  unfold unbracketed
  rw [getLast?_enclosed]
  exact List.dropLast_concat

/-- The operands of a written list are its literals. -/
theorem listOf_listed (first : Literal) (others : List Literal) :
    listOf ('(' :: (listed first others ++ [')'])) =
      .ok (first.operand :: others.map Literal.operand) := by
  have htrim : trim ('(' :: (listed first others ++ [')'])) =
      '(' :: (listed first others ++ [')']) := by
    apply trimBy_eq_self
    · exact forall_head_cons (by decide) _
    · intro c hc
      obtain rfl := Option.some.inj ((getLast?_enclosed ..).symm.trans hc)
      decide
  have hitems := items_listed first others (List.forall_mem_nil _)
  rw [listOf, htrim, unbracketed_parentheses, hitems, mapM_eq_ok_iff]
  simp [ofText_chars]

end Operand

end CriteriaSearch.Filter
