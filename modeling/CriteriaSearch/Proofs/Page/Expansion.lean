import CriteriaSearch.Page.Expansion
import CriteriaSearch.Proofs.Number.Numeral
import CriteriaSearch.Proofs.Text.Case
import Mathlib.Data.List.TakeWhile

/-!
# Reading an expansion

The mode of an expansion is the word in front of its window. Each token of the window stands for the
number that it denotes, or else for its default, and does so whatever the other token is.
-/

namespace CriteriaSearch.Expansion

open Text

/-! ### Tokens -/

/-- A run of ASCII digits. -/
def IsNumeral (token : List Char) : Prop := token ≠ [] ∧ token.all Char.isDigit = true

instance (token : List Char) : Decidable (IsNumeral token) := inferInstanceAs (Decidable (_ ∧ _))

/-- What a token stands for. -/
def denoted (token : List Char) (default : Int) : Int :=
  if IsNumeral token then ((Nat.ofDigitChars 10 token 0 : Nat) : Int) else default

/-- The tokens of the window in a text, without the blanks around them. -/
def tokens (s : String) : List (List Char) :=
  ((windowText? (trim s.toList)).map fun inner => (splitAt ',' inner).map trim).getD []

def windowed (mode : Mode) : List (List Char) → Expansion
  | [] => { mode }
  | [only] => { mode, limit := denoted only 5 }
  | first :: second :: _ => { mode, offset := denoted first 0, limit := denoted second 5 }

theorem denoted_nonneg (token : List Char) {default : Int} (h : 0 ≤ default) :
    0 ≤ denoted token default := by
  unfold denoted
  split
  · exact Int.natCast_nonneg _
  · exact h

theorem windowed_nonneg (mode : Mode) (tokens : List (List Char)) :
    0 ≤ (windowed mode tokens).offset ∧ 0 ≤ (windowed mode tokens).limit := by
  have hoffset : (0 : Int) ≤ 0 := Int.le_refl 0
  have hlimit : (0 : Int) ≤ 5 := by decide
  match tokens with
  | [] => exact ⟨hoffset, hlimit⟩
  | [only] => exact ⟨hoffset, denoted_nonneg only hlimit⟩
  | first :: second :: _ => exact ⟨denoted_nonneg first hoffset, denoted_nonneg second hlimit⟩

theorem count_eq {token : List Char} (hlength : token.length ≤ Numeral.maxDigits) (default : Int) :
    count token default = .ok (denoted token default) := by
  unfold count denoted
  by_cases h : IsNumeral token
  · obtain ⟨hne, hdigits⟩ := h
    have hplain : ¬ (token.isEmpty || !token.all Char.isDigit) = true := by simp [hne, hdigits]
    have hread := Numeral.int?_ascii hne (List.all_eq_true.mp hdigits) hlength
    rw [if_neg hplain, hread, if_pos ⟨hne, hdigits⟩]
  · have hother : (token.isEmpty || !token.all Char.isDigit) = true := by
      apply Bool.of_not_eq_false
      intro hplain
      rw [Bool.or_eq_false_iff, List.isEmpty_eq_false_iff, Bool.not_eq_false'] at hplain
      exact h hplain
    rw [if_pos hother, if_neg h]

/-- A text is read by its word and its tokens, if no token is too long. -/
theorem ofText_eq {s : String} (h : ∀ token ∈ tokens s, token.length ≤ Numeral.maxDigits) :
    ofText s = .ok (windowed (Mode.ofText (trim s.toList)) (tokens s)) := by
  unfold tokens at h
  unfold ofText tokens
  dsimp only
  cases hwindow : windowText? (trim s.toList) with
  | none => rfl
  | some inner =>
      rw [hwindow, Option.map_some, Option.getD_some] at h
      rw [Option.map_some, Option.getD_some]
      dsimp only
      match hpieces : splitAt ',' inner with
      | [] => exact absurd hpieces (splitAt_ne_nil ',' inner)
      | [only] =>
          obtain rfl := splitAt_eq_singleton hpieces
          rw [hpieces] at h
          have hshort := h (trim only) List.mem_cons_self
          dsimp only
          rw [count_eq hshort]
          rfl
      | first :: second :: rest =>
          rw [hpieces] at h
          have hfirst := h (trim first) List.mem_cons_self
          have hsecond := h (trim second) (List.mem_cons_of_mem _ List.mem_cons_self)
          dsimp only
          rw [count_eq hfirst, count_eq hsecond]
          rfl

/-! ### Windows in parentheses -/

theorem beforeLast?_append {c : Char} {rest : List Char} (h : c ∉ rest) (front : List Char) :
    beforeLast? c (front ++ c :: rest) = some front := by
  have hrest : ∀ d ∈ rest.reverse, (d != c) = true := by
    intro d hd
    have hne : d ≠ c := fun heq => h (heq ▸ List.mem_reverse.mp hd)
    simpa using hne
  have hdrop : (front ++ c :: rest).reverse.dropWhile (· != c) = c :: front.reverse := by
    rw [List.reverse_append, List.reverse_cons, List.append_assoc,
      List.dropWhile_append_of_pos hrest]
    exact List.dropWhile_cons_of_neg (by simp)
  rw [beforeLast?, hdrop]
  exact congrArg some (List.reverse_reverse front)

theorem beforeLast?_eq_none {c : Char} {cs : List Char} (h : c ∉ cs) : beforeLast? c cs = none := by
  have hdrop : cs.reverse.dropWhile (· != c) = [] := by
    apply List.dropWhile_eq_nil_iff.mpr
    intro d hd
    have hne : d ≠ c := fun heq => h (heq ▸ List.mem_reverse.mp hd)
    simpa using hne
  rw [beforeLast?, hdrop]

theorem windowText?_append {inner : List Char} (h : '(' ∉ inner) (front : List Char) :
    windowText? (front ++ '(' :: (inner ++ [')'])) = some inner := by
  have hopen : beforeLast? '(' (front ++ '(' :: (inner ++ [')'])) = some front :=
    beforeLast?_append (by simpa using h) front
  have hclose : beforeLast? ')' (front ++ '(' :: (inner ++ [')'])) =
      some (front ++ '(' :: inner) := by
    have hlast := beforeLast?_append (List.not_mem_nil (a := ')')) (front ++ '(' :: inner)
    rwa [List.append_assoc] at hlast
  rw [windowText?, hopen, hclose]
  simp

theorem windowText?_eq_none {cs : List Char} (h : '(' ∉ cs) : windowText? cs = none := by
  rw [windowText?, beforeLast?_eq_none h]
  rfl

/-! ### The grammar -/

/-- A text that begins with the name of a mode in any letter case and opens no window. -/
structure Leads (w : String) (mode : Mode) : Prop where
  known : mode = .both ∨ mode = .child
  word : isWord mode.name (w.toList.take mode.name.length) = true
  unopened : '(' ∉ w.toList

/-- A text that can stand between the commas of a window. -/
structure IsToken (s : String) : Prop where
  whole : ',' ∉ s.toList
  unopened : '(' ∉ s.toList
  short : (trim s.toList).length ≤ Numeral.maxDigits

def IsPad (s : String) : Prop := ∀ c ∈ s.toList, isBlank c = true

variable {w pre post : String} {mode : Mode}

theorem IsPad.not_mem (hpad : IsPad pre) {c : Char} (hc : isBlank c = false) : c ∉ pre.toList := by
  intro hmem
  rw [hpad c hmem] at hc
  cases hc

theorem Leads.exists_letters (hw : Leads w mode) : ∃ letters more,
    w.toList = letters ++ more ∧ lower letters = mode.name.toList ∧ letters ≠ [] ∧
      ∀ c ∈ letters, isBlank c = false := by
  have hname : mode.name.toList.all Char.isAlpha = true ∧ mode.name.toList ≠ [] := by
    rcases hw.known with rfl | rfl <;> decide
  have hlower : lower (w.toList.take mode.name.length) = mode.name.toList := eq_of_beq hw.word
  refine ⟨w.toList.take mode.name.length, w.toList.drop mode.name.length,
    (List.take_append_drop _ _).symm, hlower, ?_, ?_⟩
  · intro hnil
    apply hname.2
    rw [← hlower, hnil]
    rfl
  · intro c hc
    exact isBlank_of_isAlpha (isAlpha_of_lower hname.1 hlower c hc)

theorem Leads.mode_eq (hw : Leads w mode) (hpre : IsPad pre) (rest : List Char) :
    Mode.ofText (trim (pre.toList ++ (w.toList ++ rest))) = mode := by
  obtain ⟨letters, more, hletters, hlower, hne, hsolid⟩ := hw.exists_letters
  rw [hletters, List.append_assoc, trim, trimBy_front hpre hne hsolid, Mode.ofText]
  rw [lower, List.map_append, ← lower, hlower]
  rcases hw.known with rfl | rfl
  · exact if_pos rfl
  · rfl

theorem tokens_eq_nil (hw : Leads w mode) (hpre : IsPad pre) (hpost : IsPad post) :
    tokens (pre ++ w ++ post) = [] := by
  have hopen : '(' ∉ trim (pre ++ w ++ post).toList := by
    intro hmem
    have hwhole := mem_of_mem_trimBy hmem
    rw [String.toList_append, String.toList_append, List.mem_append, List.mem_append] at hwhole
    rcases hwhole with (hmem | hmem) | hmem
    · exact hpre.not_mem (by decide) hmem
    · exact hw.unopened hmem
    · exact hpost.not_mem (by decide) hmem
  rw [tokens, windowText?_eq_none hopen]
  rfl

theorem tokens_window (hw : Leads w mode) (hpre : IsPad pre) (hpost : IsPad post)
    {inner : String} (hinner : '(' ∉ inner.toList) :
    tokens (pre ++ (w ++ "(" ++ inner ++ ")") ++ post) = (splitAt ',' inner.toList).map trim := by
  obtain ⟨letters, more, hletters, -, hne, hsolid⟩ := hw.exists_letters
  have hchars : (pre ++ (w ++ "(" ++ inner ++ ")") ++ post).toList =
      pre.toList ++ (w.toList ++ '(' :: (inner.toList ++ [')']) ++ post.toList) := by
    simp
  have htrim : trim (pre ++ (w ++ "(" ++ inner ++ ")") ++ post).toList =
      w.toList ++ '(' :: (inner.toList ++ [')']) := by
    rw [hchars]
    apply trimBy_padded hpre hpost
    · rw [hletters, List.append_assoc]
      exact head_append hne hsolid _
    · rw [getLast?_append_right (List.cons_ne_nil _ _), getLast?_enclosed]
      intro c hc
      obtain rfl := Option.some.inj hc
      decide
  rw [tokens, htrim, windowText?_append hinner, Option.map_some, Option.getD_some]

theorem Leads.ofText_eq (hw : Leads w mode) (hpre : IsPad pre) {rest : String}
    {ts : List (List Char)} (htokens : tokens (pre ++ (w ++ rest)) = ts)
    (hshort : ∀ token ∈ ts, token.length ≤ Numeral.maxDigits) :
    ofText (pre ++ (w ++ rest)) = .ok (windowed mode ts) := by
  subst htokens
  rw [Expansion.ofText_eq hshort, String.toList_append, String.toList_append,
    hw.mode_eq hpre]

/-- An expansion has a window of natural numbers, and the parts of its text are read one by one. -/
theorem ofText_grammar :
    (∀ s : String, (∀ token ∈ tokens s, token.length ≤ Numeral.maxDigits) →
      ∃ e, ofText s = .ok e ∧ 0 ≤ e.offset ∧ 0 ≤ e.limit) ∧
    ∀ (w pre post : String) (mode : Mode), Leads w mode → IsPad pre → IsPad post →
      ofText (pre ++ w ++ post) = .ok { mode, offset := 0, limit := 5 } ∧
      ∀ t, IsToken t →
        ofText (pre ++ (w ++ "(" ++ t ++ ")") ++ post) =
          .ok { mode, offset := 0, limit := denoted (trim t.toList) 5 } ∧
        ∀ s, IsToken s →
          ofText (pre ++ (w ++ "(" ++ (s ++ "," ++ t) ++ ")") ++ post) =
            .ok { mode, offset := denoted (trim s.toList) 0,
                        limit := denoted (trim t.toList) 5 } := by
  refine ⟨?_, ?_⟩
  · intro s hshort
    exact ⟨_, ofText_eq hshort, windowed_nonneg _ _⟩
  · intro w pre post mode hw hpre hpost
    refine ⟨?_, fun t ht => ⟨?_, fun s hs => ?_⟩⟩
    · have htokens := tokens_eq_nil hw hpre hpost
      rw [String.append_assoc] at htokens ⊢
      exact hw.ofText_eq hpre htokens (List.forall_mem_nil _)
    · have htokens := tokens_window hw hpre hpost ht.unopened
      rw [splitAt_of_not_mem ht.whole] at htokens
      simp only [String.append_assoc] at htokens ⊢
      exact hw.ofText_eq hpre htokens (List.forall_mem_singleton.mpr ht.short)
    · have hinner : '(' ∉ (s ++ "," ++ t).toList := by
        simp [hs.unopened, ht.unopened]
      have hpieces : splitAt ',' (s ++ "," ++ t).toList = [s.toList, t.toList] := by
        have hchars : (s ++ "," ++ t).toList = s.toList ++ ',' :: t.toList := by simp
        rw [hchars, splitAt_append hs.whole, splitAt_of_not_mem ht.whole]
      have htokens := tokens_window hw hpre hpost hinner
      rw [hpieces] at htokens
      simp only [String.append_assoc] at htokens ⊢
      refine hw.ofText_eq hpre htokens (List.forall_mem_cons.mpr ⟨hs.short, ?_⟩)
      exact List.forall_mem_singleton.mpr ht.short

/-- The second token is a digit three, but none of ASCII. -/
theorem scrawledChildren_read :
    ofText ("\t " ++ ("cHiLdren " ++ "(" ++ (" 3 " ++ "," ++ "\u0663") ++ ")") ++ " ") =
      .ok { mode := .child, offset := 3, limit := 5 } := by
  have hlead : Leads "cHiLdren " .child := ⟨.inr rfl, by decide, by decide⟩
  have hpre : IsPad "\t " := List.all_eq_true.mp (by decide)
  have hpost : IsPad " " := List.all_eq_true.mp (by decide)
  have hfirst : IsToken " 3 " := ⟨by decide, by decide, by decide⟩
  have hsecond : IsToken "\u0663" := ⟨by decide, by decide, by decide⟩
  have hread := ((ofText_grammar.2 "cHiLdren " "\t " " " .child hlead hpre hpost).2
    "\u0663" hsecond).2 " 3 " hfirst
  have hthree : denoted (trim " 3 ".toList) 0 = 3 := by decide
  have hfive : denoted (trim "\u0663".toList) 5 = 5 := by decide
  exact hread.trans (congrArg Except.ok (congrArg₂ (Expansion.mk .child) hthree hfive))

end CriteriaSearch.Expansion
