import CriteriaSearch.Proofs.Filter.Writing

/-!
# Splitting filter texts

A scan of a written condition finds no connector in it: outside quotes and parentheses its words are
no connectors, and everything else stands behind a character that is no blank. Between conditions
it finds the connector that joins them.
-/

namespace CriteriaSearch.Filter

open Text

/-! ### Scanning -/

/-- From `p`, the scan of `w` before `tail` finds no connector and arrives at `p'`. -/
def Reads (p : Position) (w tail : List Char) (p' : Position) : Prop :=
  tokens p (w ++ tail) = w.map .char ++ tokens p' tail

namespace Reads

variable {p p' p'' : Position} {u w tail : List Char}

theorem nil (p : Position) (tail : List Char) : Reads p [] tail p := rfl

theorem append (hu : Reads p u (w ++ tail) p') (hw : Reads p' w tail p'') :
    Reads p (u ++ w) tail p'' := by
  unfold Reads at hu hw ⊢
  rw [List.append_assoc, hu, hw, List.map_append, List.append_assoc]

theorem single {c : Char} (hskip : p.skip = 0) (hc : p.connector? (c :: tail) = none) :
    Reads p [c] tail (p.pass c) := by
  unfold Reads
  rw [List.singleton_append, tokens, if_neg (by simp [hskip]), hc]
  rfl

theorem cons {c : Char} (hskip : p.skip = 0) (hc : p.connector? (c :: (w ++ tail)) = none)
    (hw : Reads (p.pass c) w tail p') : Reads p (c :: w) tail p' :=
  (single hskip hc).append (u := [c]) hw

end Reads

/-- The position outside quotes, at a depth, behind a character. -/
def outside (depth : Nat) (before : Option Char) : Position := { depth, before }

theorem pass_plain {c : Char} (hc : plain c = true) (depth : Nat) (before : Option Char) :
    (outside depth before).pass c = outside depth (some c) := by
  simp only [plain, Bool.not_eq_true', Bool.or_eq_false_iff] at hc
  simp [Position.pass, outside, hc.1.2, hc.2, hc.1.1.2]

/-! ### Where no connector begins -/

/-- A word is only taken for a connector if it is one. -/
theorem beginsWithWord_eq_false {word : String} {w tail : List Char} (hw : Solid w)
    (hword : isWord word w = false) (htail : ∀ c ∈ tail.head?, c.toLower ∉ word.toList) :
    beginsWithWord word (w ++ tail) = false := by
  apply Bool.eq_false_iff.mpr
  intro hbegins
  rw [beginsWithWord, Bool.and_eq_true] at hbegins
  obtain ⟨htake, hnext⟩ := hbegins
  have hlower : lower ((w ++ tail).take word.length) = word.toList := by
    simpa [isWord] using htake
  rcases Nat.lt_trichotomy word.length w.length with hlt | heq | hgt
  · have hget : (w ++ tail)[word.length]? = some w[word.length] := by
      rw [List.getElem?_append_left hlt, List.getElem?_eq_getElem hlt]
    rw [hget, Option.all_some, hw _ (List.getElem_mem hlt)] at hnext
    cases hnext
  · rw [heq, List.take_left] at hlower
    simp [isWord, hlower] at hword
  · cases tail with
    | nil =>
        have hlength := congrArg List.length hlower
        rw [List.append_nil, lower, List.length_map, List.length_take, String.length_toList]
          at hlength
        omega
    | cons c tail =>
        have hmem : c ∈ (w ++ c :: tail).take word.length := by
          rw [List.take_append]
          have hpos : word.length - w.length ≠ 0 := by omega
          obtain ⟨k, hk⟩ := Nat.exists_eq_succ_of_ne_zero hpos
          rw [hk, List.take_succ_cons]
          exact List.mem_append_right _ List.mem_cons_self
        exact htail c rfl (hlower ▸ List.mem_map_of_mem hmem)

theorem connector?_of_word {w tail : List Char} (hw : IsTerm w)
    (htail : ∀ c ∈ tail.head?, c.toLower ∉ "and".toList ∧ c.toLower ∉ "or".toList)
    (before : Option Char) : connector? before (w ++ tail) = none := by
  have hand := beginsWithWord_eq_false hw.solid hw.not_and fun c hc => (htail c hc).1
  have hor := beginsWithWord_eq_false hw.solid hw.not_or fun c hc => (htail c hc).2
  cases w with
  | nil => exact absurd rfl hw.ne_nil
  | cons c w =>
      have hcomma : c ≠ ',' := by
        rintro rfl
        exact absurd (hw.plain _ List.mem_cons_self) (by decide)
      rw [List.cons_append] at hand hor ⊢
      simp [connector?, hcomma, hand, hor]

theorem connector?_of_head {c : Char} (hcomma : c ≠ ',') (hand : c.toLower ∉ "and".toList)
    (hor : c.toLower ∉ "or".toList) (before : Option Char) (cs : List Char) :
    connector? before (c :: cs) = none := by
  have hand' : beginsWithWord "and" ([] ++ c :: cs) = false :=
    beginsWithWord_eq_false (fun d hd => nomatch hd) (by decide) (forall_head_cons hand cs)
  have hor' : beginsWithWord "or" ([] ++ c :: cs) = false :=
    beginsWithWord_eq_false (fun d hd => nomatch hd) (by decide) (forall_head_cons hor cs)
  rw [List.nil_append] at hand' hor'
  simp [connector?, hcomma, hand', hor']

/-- Nor does one begin behind a character that is no blank. -/
theorem connector?_behind {b c : Char} (hb : isBlank b = false) (hcomma : c ≠ ',') (depth : Nat)
    (cs : List Char) : (outside depth (some b)).connector? (c :: cs) = none := by
  cases depth with
  | zero =>
      have hnone : connector? (some b) (c :: cs) = none := by simp [connector?, hcomma, hb]
      exact hnone
  | succ depth => rfl

/-! ### Conditions -/

/-- The scan of `w` ends outside quotes, behind a character that is no blank. -/
def ReadsSolid (depth : Nat) (before : Option Char) (w tail : List Char) : Prop :=
  ∃ c, isBlank c = false ∧ Reads (outside depth before) w tail (outside depth (some c))

theorem reads_word {w tail : List Char} {depth : Nat} {before : Option Char}
    (hw : ∀ c ∈ w, plain c = true) (hne : w ≠ [])
    (hfirst : (outside depth before).connector? (w ++ tail) = none) :
    ReadsSolid depth before w tail := by
  induction w generalizing before with
  | nil => exact absurd rfl hne
  | cons c w ih =>
      have hc := hw c List.mem_cons_self
      have hrest : ∀ d ∈ w, plain d = true := fun d hd => hw d (List.mem_cons_of_mem c hd)
      have hblank : isBlank c = false := solid_of_plain hw c List.mem_cons_self
      cases w with
      | nil =>
          have hread := Reads.single (p := outside depth before) rfl hfirst
          rw [pass_plain hc] at hread
          exact ⟨c, hblank, hread⟩
      | cons d w =>
          have hcomma : d ≠ ',' := by
            rintro rfl
            exact absurd (hrest _ List.mem_cons_self) (by decide)
          obtain ⟨e, he, hread⟩ := ih hrest (List.cons_ne_nil d w)
            (connector?_behind hblank hcomma depth (w ++ tail))
          refine ⟨e, he, .cons rfl hfirst ?_⟩
          rwa [pass_plain hc]

theorem ReadsSolid.append {depth : Nat} {before : Option Char} {u w tail : List Char}
    (hu : ReadsSolid depth before u (w ++ tail))
    (hw : ∀ c, isBlank c = false → ReadsSolid depth (some c) w tail) :
    ReadsSolid depth before (u ++ w) tail := by
  obtain ⟨c, hc, hread⟩ := hu
  obtain ⟨d, hd, hread'⟩ := hw c hc
  exact ⟨d, hd, hread.append hread'⟩

theorem reads_body {q : Char} {body : List Char} (hbody : q ∉ body) (depth : Nat)
    (before : Option Char) (tail : List Char) :
    Reads { quote := some q, depth, before } (body ++ [q]) tail (outside depth (some q)) := by
  induction body generalizing before with
  | nil =>
      have hpass : ({ quote := some q, depth, before } : Position).pass q =
          outside depth (some q) := by
        simp [Position.pass, outside]
      exact hpass ▸ .single rfl rfl
  | cons c body ih =>
      have hne : c ≠ q := fun heq => hbody (heq ▸ List.mem_cons_self)
      have hpass : ({ quote := some q, depth, before } : Position).pass c =
          { quote := some q, depth, before := some c } := by
        simp [Position.pass, hne]
      refine .cons rfl rfl ?_
      rw [hpass]
      exact ih (fun hmem => hbody (List.mem_cons_of_mem c hmem)) (some c)

theorem reads_quoted (q : Quotation) (depth : Nat) (before : Option Char) (tail : List Char) :
    ReadsSolid depth before (Literal.quoted q).chars tail := by
  have hfirst : (outside depth before).connector? (q.quote :: (q.body ++ [q.quote] ++ tail)) =
      none := by
    cases depth with
    | zero =>
        rcases q.quote_eq with h | h
        · rw [h]
          exact connector?_of_head (c := '\'') (by decide) (by decide) (by decide) before _
        · rw [h]
          exact connector?_of_head (c := '"') (by decide) (by decide) (by decide) before _
    | succ depth => rfl
  have hpass : (outside depth before).pass q.quote =
      { quote := some q.quote, depth, before := some q.quote } := by
    simp [Position.pass, outside, q.isQuote]
  refine ⟨q.quote, q.quote_solid, .cons rfl hfirst ?_⟩
  rw [hpass]
  exact reads_body q.closed depth (some q.quote) tail

/-- A literal behind a character that is no blank, or in parentheses. -/
theorem reads_literal (v : Literal) {depth : Nat} {before : Option Char}
    (hbefore : depth = 0 → ∃ b, before = some b ∧ isBlank b = false) (tail : List Char) :
    ReadsSolid depth before v.chars tail := by
  rcases v.plain_or_quoted with ⟨hne, hplain⟩ | ⟨q, rfl⟩
  · apply reads_word hplain hne
    cases depth with
    | succ depth => rfl
    | zero =>
        obtain ⟨b, rfl, hb⟩ := hbefore rfl
        cases hchars : v.chars with
        | nil => exact absurd hchars hne
        | cons c cs =>
            have hcomma : c ≠ ',' := by
              rintro rfl
              exact absurd (hplain _ (hchars ▸ List.mem_cons_self)) (by decide)
            exact connector?_behind hb hcomma 0 _
  · exact reads_quoted q depth before tail

/-- A blank between words. -/
theorem reads_blank (before : Option Char) {w tail : List Char}
    (hw : ReadsSolid 0 (some ' ') w tail) : ReadsSolid 0 before (' ' :: w) tail := by
  obtain ⟨c, hc, hread⟩ := hw
  have hnone : (outside 0 before).connector? (' ' :: (w ++ tail)) = none :=
    connector?_of_head (c := ' ') (by decide) (by decide) (by decide) before _
  exact ⟨c, hc, .cons rfl hnone hread⟩

/-- Inside parentheses commas and blanks separate nothing. -/
theorem reads_listed (first : Literal) (others : List Literal) (depth : Nat)
    (before : Option Char) (tail : List Char) :
    ReadsSolid (depth + 1) before (listed first others) tail := by
  have hinside : ∀ before, depth + 1 = 0 → ∃ b, before = some b ∧ isBlank b = false :=
    fun _ h => absurd h (Nat.succ_ne_zero depth)
  unfold listed
  induction others generalizing first before with
  | nil =>
      rw [List.flatMap_nil, List.append_nil]
      exact reads_literal first (hinside before) tail
  | cons v others ih =>
      rw [List.flatMap_cons]
      refine (reads_literal first (hinside before) _).append fun c hc => ?_
      obtain ⟨d, hd, hread⟩ := ih v (some ' ')
      rw [List.cons_append, List.cons_append]
      exact ⟨d, hd, .cons rfl rfl (.cons rfl rfl hread)⟩

theorem reads_parentheses (before : Option Char) (first : Literal) (others : List Literal)
    (tail : List Char) :
    ReadsSolid 0 before ('(' :: (listed first others ++ [')'])) tail := by
  obtain ⟨c, hc, hread⟩ := reads_listed first others 0 (some '(') ([')'] ++ tail)
  have hnone : (outside 0 before).connector? ('(' :: (listed first others ++ [')'] ++ tail)) =
      none := connector?_of_head (c := '(') (by decide) (by decide) (by decide) before _
  have hclose : Reads (outside 1 (some c)) [')'] tail (outside 0 (some ')')) := .single rfl rfl
  exact ⟨')', by decide, .cons rfl hnone (hread.append hclose)⟩

/-- What stands behind a word: something that continues no connector. -/
def Ends (tail : List Char) : Prop :=
  ∀ c ∈ tail.head?, c.toLower ∉ "and".toList ∧ c.toLower ∉ "or".toList

theorem reads_term {w : List Char} (hw : IsTerm w) {tail : List Char} (htail : Ends tail)
    (before : Option Char) : ReadsSolid 0 before w tail :=
  reads_word hw.plain hw.ne_nil (connector?_of_word hw htail before)

theorem ends_blank (tail : List Char) : Ends (' ' :: tail) :=
  forall_head_cons (by decide) tail

theorem Sign.plain (sign : Sign) : ∀ c ∈ sign.chars, plain c = true := by
  cases sign <;> exact List.all_eq_true.mp rfl

theorem Sign.ends (sign : Sign) (tail : List Char) : Ends (sign.chars ++ tail) := by
  cases sign <;> exact forall_head_cons (by decide) _

theorem reads_keyword (k : Keyword) (tail : List Char) :
    ReadsSolid 0 (some ' ') k.chars (' ' :: tail) := by
  have hword : ∀ w, IsTerm w → ∀ tail, ReadsSolid 0 (some ' ') w (' ' :: tail) :=
    fun w hw tail => reads_term hw (ends_blank tail) _
  have hnot := hword "not".toList (by decide)
  cases k with
  | isIn => exact hword _ (by decide) tail
  | between => exact hword _ (by decide) tail
  | within => exact hword _ (by decide) tail
  | notIn =>
      exact (hnot ("in".toList ++ ' ' :: tail)).append (w := ' ' :: "in".toList) fun c _ =>
        reads_blank _ (hword "in".toList (by decide) tail)
  | notBetween =>
      exact (hnot ("between".toList ++ ' ' :: tail)).append (w := ' ' :: "between".toList)
        fun c _ => reads_blank _ (hword "between".toList (by decide) tail)

/-- The scan of a condition finds no connector. -/
theorem reads_intent (i : Intent) {tail : List Char} (htail : Ends tail)
    (before : Option Char) : ReadsSolid 0 before i.chars tail := by
  cases i with
  | sort field direction =>
      have hsort : ∀ tail, ReadsSolid 0 before "sort".toList (' ' :: tail) := fun tail =>
        reads_term (by decide) (ends_blank tail) before
      have hdirection : ReadsSolid 0 (some ' ') direction.name.toList tail := by
        cases direction with
        | asc => exact reads_term (by decide) htail _
        | desc => exact reads_term (by decide) htail _
      refine (hsort _).append fun c _ => reads_blank _ ?_
      exact (reads_term field.isTerm (ends_blank _) _).append fun c _ => reads_blank _ hdirection
  | list field keyword first others valid =>
      refine (reads_term field.isTerm (ends_blank _) before).append fun c _ => reads_blank _ ?_
      exact (reads_keyword keyword _).append fun c _ =>
        reads_blank _ (reads_parentheses _ first others tail)
  | symbol field sign operand valid =>
      have hsign : ∀ b, isBlank b = false →
          ReadsSolid 0 (some b) sign.chars (operand.chars ++ tail) := by
        intro b hb
        apply reads_word sign.plain
        · cases sign <;> decide
        · cases sign <;> exact connector?_behind hb (by decide) 0 _
      rw [Intent.chars]
      refine ReadsSolid.append ?_ fun b hb => (hsign b hb).append fun c hc => ?_
      · rw [List.append_assoc]
        exact reads_term field.isTerm (sign.ends _) before
      · exact reads_literal operand (fun _ => ⟨c, rfl, hc⟩) tail

/-! ### Conditions and connectors -/

theorem Intent.head_solid (i : Intent) : ∀ c ∈ i.chars.head?, isBlank c = false := by
  cases i with
  | sort field direction => exact forall_head_cons (by decide) _
  | list field keyword first others valid => exact head_append field.ne_nil field.isTerm.solid _
  | symbol field sign operand valid => exact head_append field.ne_nil field.isTerm.solid _

theorem Intent.last_solid (i : Intent) : ∀ c ∈ i.chars.getLast?, isBlank c = false := by
  cases i with
  | sort field direction =>
      intro c hc
      have hchars : (Intent.sort field direction).chars =
          ("sort".toList ++ ' ' :: (field.chars ++ [' '])) ++ direction.name.toList := by
        simp [Intent.chars]
      cases direction <;>
        (rw [hchars, getLast?_append_right (by decide)] at hc
         obtain rfl := Option.some.inj hc
         decide)
  | list field keyword first others valid =>
      intro c hc
      have hchars : (Intent.list field keyword first others valid).chars =
          (field.chars ++ ' ' :: (keyword.chars ++ ' ' :: '(' :: listed first others)) ++
            [')'] := by
        simp [Intent.chars]
      rw [hchars, List.getLast?_concat] at hc
      obtain rfl := Option.some.inj hc
      decide
  | symbol field sign operand valid =>
      intro c hc
      rw [Intent.chars, ← List.append_assoc,
        getLast?_append_right operand.ne_nil] at hc
      exact operand.last_solid c hc

theorem Intent.ne_nil (i : Intent) : i.chars ≠ [] := by
  cases i with
  | sort field direction => exact List.cons_ne_nil _ _
  | list field keyword first others valid => exact List.append_ne_nil_of_left_ne_nil field.ne_nil _
  | symbol field sign operand valid => exact List.append_ne_nil_of_left_ne_nil field.ne_nil _

theorem ends_continued (rest : List (Join × Intent)) : Ends (continued rest) := by
  cases rest with
  | nil => exact fun c hc => nomatch hc
  | cons next rest =>
      obtain ⟨join, i⟩ := next
      cases join <;> exact forall_head_cons (by decide) _

/-- What a join has before its connector. -/
def Join.lead : Join → List Char
  | .comma => []
  | .and | .or => [' ']

/-- The scan of a join finds its connector. -/
theorem tokens_join (join : Join) {b : Char} (hb : isBlank b = false) (next : List Char) :
    tokens (outside 0 (some b)) (join.chars ++ next) =
      join.lead.map .char ++ .join join.conjunction :: .char ' ' ::
        tokens (outside 0 (some ' ')) next := by
  cases join with
  | comma => rfl
  | and =>
      have hblank : Reads (outside 0 (some b)) [' '] ("and ".toList ++ next)
          (outside 0 (some ' ')) := .single rfl (connector?_behind hb (by decide) 0 _)
      exact hblank.trans rfl
  | or =>
      have hblank : Reads (outside 0 (some b)) [' '] ("or ".toList ++ next)
          (outside 0 (some ' ')) := .single rfl (connector?_behind hb (by decide) 0 _)
      exact hblank.trans rfl

theorem conditions_chars (how : Conjunction) (seen w : List Char) (ts : List Token) :
    conditions how seen (w.map .char ++ ts) = conditions how (w.reverse ++ seen) ts := by
  induction w generalizing seen with
  | nil => rfl
  | cons c w ih =>
      rw [List.map_cons, List.cons_append, conditions, ih, List.reverse_cons, List.append_assoc]
      rfl

theorem conditions_end (how : Conjunction) (i : Intent) {seen : List Char}
    (hseen : trim seen.reverse = i.chars) : conditions how seen [] = [(how, i.chars)] := by
  rw [conditions, hseen]
  cases hchars : i.chars with
  | nil => exact absurd hchars i.ne_nil
  | cons c cs => rfl

theorem conditions_join (how next : Conjunction) (i : Intent) {seen : List Char}
    (hseen : trim seen.reverse = i.chars) (ts : List Token) :
    conditions how seen (.join next :: ts) = (how, i.chars) :: conditions next [] ts := by
  rw [conditions, hseen]
  cases hchars : i.chars with
  | nil => exact absurd hchars i.ne_nil
  | cons c cs => rfl

theorem Join.lead_blank (join : Join) : ∀ c ∈ join.lead, isBlank c = true := by
  cases join <;> exact List.all_eq_true.mp rfl

/-- Conditions come out one by one, each with the conjunction before it. -/
theorem conditions_continued (how : Conjunction) (i : Intent) (rest : List (Join × Intent))
    (before : Option Char) {pad : List Char} (hpad : ∀ c ∈ pad, isBlank c = true) :
    conditions how pad (tokens (outside 0 before) (i.chars ++ continued rest)) =
      (how, i.chars) :: rest.map fun (join, i) => (join.conjunction, i.chars) := by
  induction rest generalizing how i before pad with
  | nil =>
      obtain ⟨b, -, hread⟩ := reads_intent i (ends_continued []) before
      have hseen := trim_seen hpad (List.forall_mem_nil _) i.head_solid i.last_solid
      rw [hread, conditions_chars]
      exact conditions_end how i hseen
  | cons next rest ih =>
      obtain ⟨join, i'⟩ := next
      obtain ⟨b, hb, hread⟩ := reads_intent i (ends_continued ((join, i') :: rest)) before
      have hcontinued : continued ((join, i') :: rest) =
          join.chars ++ (i'.chars ++ continued rest) := by
        simp [continued]
      have hseen := trim_seen hpad join.lead_blank i.head_solid i.last_solid
      rw [hread, hcontinued, tokens_join join hb, conditions_chars, conditions_chars,
        conditions_join how _ i hseen, conditions,
        ih _ i' _ (List.forall_mem_singleton.mpr (by decide))]
      rfl

theorem split_written (first : Intent) (rest : List (Join × Intent)) :
    split (written first rest).toList =
      (.and, first.chars) :: rest.map fun (join, i) => (join.conjunction, i.chars) := by
  rw [written, String.toList_ofList]
  exact conditions_continued .and first rest none (List.forall_mem_nil _)

end CriteriaSearch.Filter
