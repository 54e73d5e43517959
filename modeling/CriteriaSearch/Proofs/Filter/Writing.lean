import CriteriaSearch.Filter
import CriteriaSearch.Proofs.Number.Numeral
import CriteriaSearch.Proofs.Text.Case
import CriteriaSearch.Query

/-!
# Writing filter texts

Conditions before they are written, the text that states them, and the entries that they stand for.
Symbols stand without blanks, lists in parentheses; conditions are joined by a comma, `and` or `or`.
-/

namespace CriteriaSearch.Filter

open Text

/-- A field that a filter text can name: an identifier other than the words that join conditions. -/
structure FieldName where
  chars : List Char
  isField : Condition.isField chars = true
  not_and : isWord "and" chars = false
  not_or : isWord "or" chars = false

/-- An integer that is short enough for a numeral. -/
structure Whole where
  value : Int
  fits : Numeral.width value.natAbs ≤ Numeral.maxDigits

/-- A text on one line, in quotes that it does not contain. -/
structure Quotation where
  quote : Char
  body : List Char
  isQuote : Filter.isQuote quote = true
  closed : quote ∉ body
  oneLine : '\n' ∉ body

inductive Literal where
  | whole (n : Whole)
  | truth (b : Bool)
  | quoted (q : Quotation)

namespace Literal

def chars : Literal → List Char
  | .whole n => (Numeral.text n.value).toList
  | .truth true => "true".toList
  | .truth false => "false".toList
  | .quoted q => q.quote :: (q.body ++ [q.quote])

def value : Literal → Value
  | .whole n => .int n.value
  | .truth b => .bool b
  | .quoted q => .text (String.ofList q.body)

def valueType : Literal → ValueType
  | .whole _ => .number
  | .truth _ => .boolean
  | .quoted _ => .text

end Literal

/-- The symbols between a field and one literal. -/
inductive Sign where
  | equal
  | colon
  | notEqual
  | less
  | lessEqual
  | greater
  | greaterEqual
  | contains
  | notContains
  | startsWith
  | endsWith
deriving DecidableEq, Repr

namespace Sign

def chars : Sign → List Char
  | .equal => ['=']
  | .colon => [':']
  | .notEqual => ['!', '=']
  | .less => ['<']
  | .lessEqual => ['<', '=']
  | .greater => ['>']
  | .greaterEqual => ['>', '=']
  | .contains => ['~']
  | .notContains => ['!', '~']
  | .startsWith => ['^', '=']
  | .endsWith => ['$', '=']

def operator : Sign → Operator
  | .equal | .colon => .equal
  | .notEqual => .notEqual
  | .less => .less
  | .lessEqual => .lessEqual
  | .greater => .greater
  | .greaterEqual => .greaterEqual
  | .contains => .contains
  | .notContains => .notContains
  | .startsWith => .startsWith
  | .endsWith => .endsWith

/-- Only integers are ordered, and only texts have parts. -/
def takes : Sign → Literal → Bool
  | .equal, _ | .colon, _ | .notEqual, _ => true
  | .less, v | .lessEqual, v | .greater, v | .greaterEqual, v => v.valueType == .number
  | .contains, v | .notContains, v | .startsWith, v | .endsWith, v => v.valueType == .text

end Sign

/-- The words between a field and a list of literals. -/
inductive Keyword where
  | isIn
  | notIn
  | between
  | notBetween
  | within
deriving DecidableEq, Repr

namespace Keyword

def chars : Keyword → List Char
  | .isIn => "in".toList
  | .notIn => "not in".toList
  | .between => "between".toList
  | .notBetween => "not between".toList
  | .within => "within".toList

def operator : Keyword → Operator
  | .isIn => .isIn
  | .notIn => .notIn
  | .between => .between
  | .notBetween => .notBetween
  | .within => .within

/-- A list has literals of one type; a range has two, which are no truth values. -/
def takes (k : Keyword) (first : Literal) (others : List Literal) : Bool :=
  others.all (·.valueType == first.valueType) &&
    match k with
    | .isIn | .notIn => true
    | .between | .notBetween | .within => others.length == 1 && first.valueType != .boolean

end Keyword

/-- A condition before it is written. -/
inductive Intent where
  | sort (field : FieldName) (direction : Direction)
  | list (field : FieldName) (keyword : Keyword) (first : Literal) (others : List Literal)
    (valid : keyword.takes first others = true)
  | symbol (field : FieldName) (sign : Sign) (operand : Literal)
    (valid : sign.takes operand = true)

/-- Literals with a comma and a blank between them. -/
def listed (first : Literal) (others : List Literal) : List Char :=
  first.chars ++ others.flatMap fun v => ',' :: ' ' :: v.chars

namespace Intent

def chars : Intent → List Char
  | .sort field direction => "sort".toList ++ ' ' :: (field.chars ++ ' ' :: direction.name.toList)
  | .list field keyword first others _ =>
    field.chars ++ ' ' :: (keyword.chars ++ ' ' :: '(' :: (listed first others ++ [')']))
  | .symbol field sign operand _ => field.chars ++ (sign.chars ++ operand.chars)

/-- The entry of a condition; a sort order is not joined to what precedes it. -/
def entry (how : Conjunction) : Intent → Criterion
  | .sort field direction =>
    ⟨String.ofList field.chars, .text, .sort, [.text direction.name], .and⟩
  | .list field keyword first others _ =>
    ⟨String.ofList field.chars, first.valueType, keyword.operator,
      first.value :: others.map Literal.value, how⟩
  | .symbol field sign operand _ =>
    ⟨String.ofList field.chars, operand.valueType, sign.operator, [operand.value], how⟩

end Intent

/-- What joins two conditions. -/
inductive Join where
  | comma
  | and
  | or
deriving DecidableEq, Repr

namespace Join

def chars : Join → List Char
  | .comma => [',', ' ']
  | .and => " and ".toList
  | .or => " or ".toList

def conjunction : Join → Conjunction
  | .comma | .and => .and
  | .or => .or

end Join

/-- What follows the first condition of a filter text. -/
def continued (rest : List (Join × Intent)) : List Char :=
  rest.flatMap fun (join, intent) => join.chars ++ intent.chars

/-- The filter text of conditions. -/
def written (first : Intent) (rest : List (Join × Intent)) : String :=
  String.ofList (first.chars ++ continued rest)

/-- The entries of conditions: each has the conjunction that joins it to the one before. -/
def meant (first : Intent) (rest : List (Join × Intent)) : List Criterion :=
  first.entry .and :: rest.map fun (join, intent) => intent.entry join.conjunction

/-! ### Characters and words -/

/-- A character that neither separates nor encloses anything. -/
def plain (c : Char) : Bool :=
  !(isBlank c || c == ',' || isQuote c || isOpening c || isClosing c)

theorem solid_of_plain {w : List Char} (hw : ∀ c ∈ w, plain c = true) : Solid w := by
  intro c hc
  have hplain := hw c hc
  simp only [plain, Bool.not_eq_true', Bool.or_eq_false_iff] at hplain
  exact hplain.1.1.1.1

/-- A word that can stand by itself in a condition. -/
structure IsTerm (w : List Char) : Prop where
  ne_nil : w ≠ []
  plain : ∀ c ∈ w, plain c = true
  not_and : isWord "and" w = false
  not_or : isWord "or" w = false

theorem isTerm_iff (w : List Char) :
    (!w.isEmpty && w.all plain && !isWord "and" w && !isWord "or" w) = true ↔ IsTerm w := by
  simp only [Bool.and_eq_true, Bool.not_eq_true', List.isEmpty_eq_false_iff, List.all_eq_true]
  constructor
  · rintro ⟨⟨⟨hne, hplain⟩, hand⟩, hor⟩
    exact ⟨hne, hplain, hand, hor⟩
  · rintro ⟨hne, hplain, hand, hor⟩
    exact ⟨⟨⟨hne, hplain⟩, hand⟩, hor⟩

instance (w : List Char) : Decidable (IsTerm w) := decidable_of_iff _ (isTerm_iff w)

theorem IsTerm.solid {w : List Char} (hw : IsTerm w) : Solid w := solid_of_plain hw.plain

theorem isQuote_of_plain {c : Char} (hc : plain c = true) : isQuote c = false := by
  simp only [plain, Bool.not_eq_true', Bool.or_eq_false_iff] at hc
  exact hc.1.1.2

theorem toNat_of_isFieldChar {c : Char} (hc : Condition.isFieldChar c = true) :
    48 ≤ c.toNat ∧ c.toNat ≤ 122 := by
  simp only [Condition.isFieldChar, Char.isAlphanum, Bool.or_eq_true, beq_iff_eq] at hc
  rcases hc with (halpha | hdigit) | rfl
  · obtain ⟨hlow, hhigh⟩ := toNat_of_isAlpha halpha
    omega
  · obtain ⟨hlow, hhigh⟩ := Numeral.toNat_of_isDigit hdigit
    omega
  · decide

theorem plain_of_isFieldChar {c : Char} (hc : Condition.isFieldChar c = true) :
    plain c = true := by
  obtain ⟨hlow, hhigh⟩ := toNat_of_isFieldChar hc
  have hne : ∀ d : Char, Condition.isFieldChar d = false → c ≠ d := by
    rintro d hd rfl
    rw [hc] at hd
    cases hd
  have hblank : isBlank c = false := by
    simp only [isBlank, Bool.or_eq_false_iff, Bool.and_eq_false_iff, decide_eq_false_iff_not,
      beq_eq_false_iff_ne]
    omega
  have hquote : isQuote c = false := by
    simp [isQuote, hne '\'' (by decide), hne '"' (by decide)]
  have hopen : isOpening c = false := by
    simp [isOpening, hne '(' (by decide), hne '[' (by decide)]
  have hclose : isClosing c = false := by
    simp [isClosing, hne ')' (by decide), hne ']' (by decide)]
  simp [plain, hblank, hquote, hopen, hclose, hne ',' (by decide)]

theorem Condition.isFieldChar_of_isField {cs : List Char} (hcs : isField cs = true) {c : Char}
    (hc : c ∈ cs) : isFieldChar c = true := by
  cases cs with
  | nil => cases hc
  | cons d cs =>
      obtain ⟨hstart, hrest⟩ := Bool.and_eq_true_iff.mp hcs
      rcases List.mem_cons.mp hc with rfl | hc
      · simp only [isFieldStart, isFieldChar, Char.isAlphanum, Bool.or_eq_true] at hstart ⊢
        exact hstart.imp_left .inl
      · exact List.all_eq_true.mp hrest c hc

theorem Quotation.quote_eq (q : Quotation) : q.quote = '\'' ∨ q.quote = '"' := by
  simpa [Filter.isQuote] using q.isQuote

theorem Quotation.quote_solid (q : Quotation) : isBlank q.quote = false := by
  rcases q.quote_eq with h | h <;> rw [h] <;> decide

namespace FieldName

theorem isFieldChar (f : FieldName) {c : Char} (hc : c ∈ f.chars) :
    Condition.isFieldChar c = true := Condition.isFieldChar_of_isField f.isField hc

theorem ne_nil (f : FieldName) : f.chars ≠ [] := by
  intro h
  have hfield := f.isField
  rw [h] at hfield
  cases hfield

theorem isTerm (f : FieldName) : IsTerm f.chars where
  ne_nil := f.ne_nil
  plain := fun _ hc => plain_of_isFieldChar (f.isFieldChar hc)
  not_and := f.not_and
  not_or := f.not_or

end FieldName

theorem Literal.chars_whole (n : Whole) :
    (Literal.whole n).chars = (Numeral.text n.value).toList := rfl

theorem Whole.ne_nil (n : Whole) : (Literal.whole n).chars ≠ [] := by
  rw [Literal.chars_whole]
  cases n.value with
  | ofNat k =>
      rw [Int.ofNat_eq_natCast, Numeral.text_natCast]
      exact Numeral.digitsOf_ne_nil k
  | negSucc k =>
      rw [Numeral.text_negSucc]
      exact List.cons_ne_nil _ _

theorem Whole.mem_chars {n : Whole} {c : Char} (hc : c ∈ (Literal.whole n).chars) :
    c = '-' ∨ c.isDigit = true := by
  rw [Literal.chars_whole] at hc
  cases hn : n.value with
  | ofNat k =>
      rw [hn, Int.ofNat_eq_natCast, Numeral.text_natCast] at hc
      exact .inr (Numeral.isDigit_of_mem_digitsOf hc)
  | negSucc k =>
      rw [hn, Numeral.text_negSucc] at hc
      exact (List.mem_cons.mp hc).imp_right Numeral.isDigit_of_mem_digitsOf

theorem Whole.plain {n : Whole} {c : Char} (hc : c ∈ (Literal.whole n).chars) :
    Filter.plain c = true := by
  rcases Whole.mem_chars hc with rfl | hdigit
  · decide
  · exact plain_of_isFieldChar (by simp [Condition.isFieldChar, Char.isAlphanum, hdigit])

namespace Literal

/-- What is not in quotes has plain characters. -/
theorem plain_or_quoted (v : Literal) :
    (v.chars ≠ [] ∧ ∀ c ∈ v.chars, plain c = true) ∨ ∃ q, v = .quoted q := by
  cases v with
  | whole n => exact .inl ⟨n.ne_nil, fun _ => Whole.plain⟩
  | truth b =>
      left
      cases b <;> exact ⟨by decide, List.all_eq_true.mp rfl⟩
  | quoted q => exact .inr ⟨q, rfl⟩

theorem ne_nil (v : Literal) : v.chars ≠ [] := by
  rcases v.plain_or_quoted with ⟨hne, -⟩ | ⟨q, rfl⟩
  · exact hne
  · exact List.cons_ne_nil _ _

/-- No symbol goes on into a literal. -/
theorem equals_not_head (v : Literal) : '=' ∉ v.chars.head? := by
  intro hhead
  cases v with
  | whole n =>
      rcases Whole.mem_chars (List.mem_of_mem_head? hhead) with h | h
      · exact absurd h (by decide)
      · exact absurd h (by decide)
  | truth b =>
      cases b <;> exact absurd hhead (by decide)
  | quoted q =>
      have hquote : q.quote = '=' := Option.some.inj hhead
      rcases q.quote_eq with h | h
      · exact absurd (h.symm.trans hquote) (by decide)
      · exact absurd (h.symm.trans hquote) (by decide)

theorem head_solid (v : Literal) : ∀ c ∈ v.chars.head?, isBlank c = false := by
  rcases v.plain_or_quoted with ⟨-, hplain⟩ | ⟨q, rfl⟩
  · exact fun c hc => solid_of_plain hplain c (List.mem_of_mem_head? hc)
  · exact forall_head_cons q.quote_solid _

theorem last_solid (v : Literal) : ∀ c ∈ v.chars.getLast?, isBlank c = false := by
  intro c hc
  rcases v.plain_or_quoted with ⟨-, hplain⟩ | ⟨q, rfl⟩
  · exact solid_of_plain hplain c (List.mem_of_mem_getLast? hc)
  · obtain rfl := Option.some.inj ((getLast?_enclosed ..).symm.trans hc)
    exact q.quote_solid

theorem oneLine (v : Literal) : '\n' ∉ v.chars := by
  intro hmem
  rcases v.plain_or_quoted with ⟨-, hplain⟩ | ⟨q, rfl⟩
  · exact absurd (hplain _ hmem) (by decide)
  · have hcases : '\n' = q.quote ∨ '\n' ∈ q.body := by
      simpa [chars, or_comm, or_left_comm] using hmem
    rcases hcases with hquote | hbody
    · exact absurd (hquote ▸ q.quote_solid) (by decide)
    · exact q.oneLine hbody

end Literal

theorem listed_oneLine (first : Literal) (others : List Literal) :
    '\n' ∉ listed first others := by
  intro hmem
  rcases List.mem_append.mp hmem with hfirst | hothers
  · exact first.oneLine hfirst
  · obtain ⟨v, -, hv⟩ := List.mem_flatMap.mp hothers
    rcases List.mem_cons.mp hv with h | hv
    · exact absurd h (by decide)
    · rcases List.mem_cons.mp hv with h | hv
      · exact absurd h (by decide)
      · exact v.oneLine hv

end CriteriaSearch.Filter
