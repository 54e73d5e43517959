import CriteriaSearch.Proofs.Filter.Splitting
import Mathlib.Data.List.DropRight

/-!
# Filter texts behind one another

Two filter texts with a connector between blanks are one filter text with the conditions of both,
as long as the first one leaves no quote and no bracket open. The scan of the first text does not
see what follows it, because a blank ends a word as the end of the text does. Of its connectors only
those behind its last condition reach the second text, where they join the first condition.
-/

namespace CriteriaSearch.Filter

open Text

/-! ### The scan of the first text -/

/-- A text that leaves no quote and no bracket open. -/
structure IsClosed (cs : List Char) : Prop where
  quote : (cs.foldl Position.pass {}).quote = none
  depth : (cs.foldl Position.pass {}).depth = 0

theorem beginsWithWord_append_blank {word : String} (hword : ' ' ∉ word.toList)
    (cs tail : List Char) :
    beginsWithWord word (cs ++ ' ' :: tail) = beginsWithWord word cs := by
  unfold beginsWithWord
  rcases Nat.lt_trichotomy word.length cs.length with hlt | heq | hgt
  · rw [List.take_append_of_le_length hlt.le, List.getElem?_append_left hlt]
  · rw [heq, List.take_left, List.take_length, List.getElem?_append_right (Nat.le_refl _)]
    simp [isBlank]
  · -- The word is longer than what is left, and it has no blank.
    have hlong : isWord word ((cs ++ ' ' :: tail).take word.length) = false := by
      apply Bool.eq_false_iff.mpr
      intro heq
      have hmem : ' ' ∈ (cs ++ ' ' :: tail).take word.length := by
        obtain ⟨k, hk⟩ := Nat.exists_eq_add_of_lt hgt
        rw [hk, Nat.add_assoc, List.take_length_add_append, List.take_succ_cons]
        exact List.mem_append_right cs List.mem_cons_self
      have hlower : lower ((cs ++ ' ' :: tail).take word.length) = word.toList := by
        simpa [isWord] using heq
      exact hword (hlower ▸ List.mem_map_of_mem hmem)
    have hshort : isWord word (cs.take word.length) = false := by
      apply Bool.eq_false_iff.mpr
      intro heq
      have hlower : lower (cs.take word.length) = word.toList := by simpa [isWord] using heq
      have hlength := congrArg List.length hlower
      rw [lower, List.length_map, List.length_take, String.length_toList] at hlength
      omega
    rw [hlong, hshort]
    rfl

theorem connector?_append_blank (before : Option Char) (c : Char) (cs tail : List Char) :
    connector? before (c :: cs ++ ' ' :: tail) = connector? before (c :: cs) := by
  have hand : beginsWithWord "and" (c :: cs ++ ' ' :: tail) = beginsWithWord "and" (c :: cs) :=
    beginsWithWord_append_blank (by decide) (c :: cs) tail
  have hor : beginsWithWord "or" (c :: cs ++ ' ' :: tail) = beginsWithWord "or" (c :: cs) :=
    beginsWithWord_append_blank (by decide) (c :: cs) tail
  unfold connector?
  rw [hand, hor, List.cons_append, List.head?_cons, List.head?_cons]

/-- A character that opens and closes nothing. -/
def IsInert (c : Char) : Prop := isQuote c = false ∧ isOpening c = false ∧ isClosing c = false

theorem isInert_of_plain {c : Char} (hc : plain c = true) : IsInert c := by
  simp only [plain, Bool.not_eq_true', Bool.or_eq_false_iff] at hc
  exact ⟨hc.1.1.2, hc.1.2, hc.2⟩

theorem pass_inert {p : Position} (hquote : p.quote = none) {c : Char} (hc : IsInert c) :
    p.pass c = { p with before := some c } := by
  unfold Position.pass
  rw [hquote]
  simp [hc.1, hc.2.1, hc.2.2]

theorem skip_pass (p : Position) (c : Char) : (p.pass c).skip = p.skip := by
  unfold Position.pass
  split
  · rfl
  · split_ifs <;> rfl

theorem skip_foldl_pass (p : Position) (cs : List Char) :
    (cs.foldl Position.pass p).skip = p.skip := by
  induction cs generalizing p with
  | nil => rfl
  | cons c cs ih => rw [List.foldl_cons, ih, skip_pass]

theorem lower_take_of_beginsWithWord {word : String} {cs : List Char}
    (h : beginsWithWord word cs = true) : lower (cs.take word.length) = word.toList := by
  rw [beginsWithWord, Bool.and_eq_true] at h
  exact eq_of_beq h.1

/-- The letters of a word at the front of a text. -/
theorem plain_of_beginsWithWord {word : String} {cs : List Char}
    (hword : word.toList.all Char.isAlpha = true) (h : beginsWithWord word cs = true) :
    ∀ c ∈ cs.take word.length, plain c = true := by
  intro c hc
  have halpha := isAlpha_of_lower hword (lower_take_of_beginsWithWord h) c hc
  exact plain_of_isFieldChar (by simp [Condition.isFieldChar, Char.isAlphanum, halpha])

theorem inert_of_beginsWithWord {word : String} {cs : List Char}
    (hword : word.toList.all Char.isAlpha = true) (h : beginsWithWord word cs = true) :
    word.length ≤ cs.length ∧ ∀ c ∈ cs.take word.length, IsInert c := by
  constructor
  · have hlength := congrArg List.length (lower_take_of_beginsWithWord h)
    rw [lower, List.length_map, List.length_take, String.length_toList] at hlength
    omega
  · intro c hc
    exact isInert_of_plain (plain_of_beginsWithWord hword h c hc)

theorem connector?_spec {before : Option Char} {cs : List Char} {how : Conjunction} {width : Nat}
    (h : connector? before cs = some (how, width)) :
    (how = .and ∨ how = .or) ∧ 0 < width ∧ width ≤ cs.length ∧
      ∀ c ∈ cs.take width, IsInert c := by
  unfold connector? at h
  split_ifs at h with hcomma hbefore hand hor
  · cases h
    cases cs with
    | nil => cases hcomma
    | cons c cs =>
        obtain rfl := Option.some.inj hcomma
        refine ⟨.inl rfl, Nat.one_pos, Nat.le_add_left 1 _, ?_⟩
        exact List.forall_mem_singleton.mpr ⟨rfl, rfl, rfl⟩
  · cases h
    exact ⟨.inl rfl, by decide, inert_of_beginsWithWord (by decide) hand⟩
  · cases h
    exact ⟨.inr rfl, by decide, inert_of_beginsWithWord (by decide) hor⟩

/-- What is left to skip before a text is the rest of a connector. -/
structure Position.SkipsInert (p : Position) (cs : List Char) : Prop where
  le : p.skip ≤ cs.length
  inert : ∀ c ∈ cs.take p.skip, IsInert c
  quote : p.skip ≠ 0 → p.quote = none

theorem Position.SkipsInert.step {p : Position} {c : Char} {cs : List Char}
    (h : p.SkipsInert (c :: cs)) (hskip : p.skip ≠ 0) :
    p.quote = none ∧ IsInert c ∧
      { p with before := some c, skip := p.skip - 1 : Position }.SkipsInert cs := by
  obtain ⟨hle, hinert, hquote⟩ := h
  obtain ⟨k, hk⟩ := Nat.exists_eq_add_one_of_ne_zero hskip
  rw [hk, List.take_succ_cons, List.forall_mem_cons] at hinert
  rw [hk] at hle ⊢
  exact ⟨hquote hskip, hinert.1, Nat.le_of_succ_le_succ hle, hinert.2, fun _ => hquote hskip⟩

theorem skipsInert_of_connector? {p : Position} {c : Char} {cs : List Char} {how : Conjunction}
    {width : Nat} (h : p.connector? (c :: cs) = some (how, width)) :
    p.quote = none ∧ IsInert c ∧
      { p with before := some c, skip := width - 1 : Position }.SkipsInert cs := by
  unfold Position.connector? at h
  split_ifs at h with houtside
  rw [Bool.and_eq_true] at houtside
  have hquote : p.quote = none := Option.isNone_iff_eq_none.mp houtside.1
  obtain ⟨-, hpos, hle, hinert⟩ := connector?_spec h
  obtain ⟨k, rfl⟩ := Nat.exists_eq_add_one_of_ne_zero hpos.ne'
  rw [List.take_succ_cons, List.forall_mem_cons] at hinert
  exact ⟨hquote, hinert.1, Nat.le_of_succ_le_succ hle, hinert.2, fun _ => hquote⟩

theorem skipsInert_pass {p : Position} (hskip : p.skip = 0) (c : Char) (cs : List Char) :
    (p.pass c).SkipsInert cs := by
  have hpass : (p.pass c).skip = 0 := (skip_pass p c).trans hskip
  exact ⟨by omega, by simp [hpass], fun h => absurd hpass h⟩

/-- A scan does not see what stands behind a blank; where it arrives, quotes and brackets alone
decide. -/
theorem tokens_append_blank {p : Position} {cs : List Char} (h : p.SkipsInert cs)
    (tail : List Char) :
    tokens p (cs ++ ' ' :: tail) =
      tokens p cs ++ tokens (cs.foldl Position.pass { p with skip := 0 }) (' ' :: tail) := by
  induction cs generalizing p with
  | nil =>
      have hskip : p.skip = 0 := Nat.le_zero.mp h.le
      rw [List.nil_append, List.foldl_nil, ← hskip]
      rfl
  | cons c cs ih =>
      rw [List.cons_append, tokens, tokens, List.foldl_cons]
      by_cases hskip : p.skip = 0
      · rw [if_neg (not_not_intro hskip), if_neg (not_not_intro hskip)]
        have hpure : { p with skip := 0 } = p := by rw [← hskip]
        have hsame : p.connector? (c :: (cs ++ ' ' :: tail)) = p.connector? (c :: cs) := by
          unfold Position.connector?
          rw [← List.cons_append, connector?_append_blank]
        rw [hsame, hpure]
        cases hconnector : p.connector? (c :: cs) with
        | none =>
            have hstay : { p.pass c with skip := 0 } = p.pass c := by
              rw [← hskip, ← skip_pass p c]
            dsimp only
            rw [ih (skipsInert_pass hskip c cs), hstay, List.cons_append]
        | some found =>
            obtain ⟨hquote, hc, hnext⟩ := skipsInert_of_connector? hconnector
            dsimp only
            rw [ih hnext, pass_inert hquote hc, List.cons_append]
            simp [hskip]
      · rw [if_pos hskip, if_pos hskip]
        obtain ⟨hquote, hc, hnext⟩ := h.step hskip
        rw [ih hnext, pass_inert (p := { p with skip := 0 }) hquote hc]

/-! ### Connectors between texts -/

/-- The scan of a text between blanks is that of the text alone. -/
theorem tokens_outside_blank (cs : List Char) :
    tokens (outside 0 (some ' ')) cs = tokens {} cs := by
  cases cs with
  | nil => rfl
  | cons c cs =>
      have hpass : (outside 0 (some ' ')).pass c = ({} : Position).pass c := rfl
      have hsame : (outside 0 (some ' ')).connector? (c :: cs) =
          ({} : Position).connector? (c :: cs) := rfl
      rw [tokens, tokens, hpass, hsame]
      rfl

/-- The connectors that may stand between two texts, with their conjunctions. -/
def betweens : List (String × Conjunction) := [(" or ", .or), (" and ", .and), (" , ", .and)]

theorem tokens_between {p : String × Conjunction} (hp : p ∈ betweens) (before : Option Char)
    (cs : List Char) :
    tokens (outside 0 before) (p.1.toList ++ cs) =
      .char ' ' :: .join p.2 :: .char ' ' :: tokens {} cs := by
  rw [← tokens_outside_blank]
  have hblank : ∀ rest, tokens (outside 0 before) (' ' :: rest) =
      .char ' ' :: tokens (outside 0 (some ' ')) rest := by
    intro rest
    have hnone : (outside 0 before).connector? (' ' :: rest) = none :=
      connector?_of_head (c := ' ') (by decide) (by decide) (by decide) before rest
    exact Reads.single rfl hnone
  simp only [betweens, List.mem_cons, List.not_mem_nil, or_false] at hp
  rcases hp with rfl | rfl | rfl
  · exact hblank ("or ".toList ++ cs)
  · exact hblank ("and ".toList ++ cs)
  · exact hblank (", ".toList ++ cs)

/-- The row of tokens of two texts with a connector between them. -/
theorem tokens_joined {r₁ : List Char} (hclosed : IsClosed r₁) {p : String × Conjunction}
    (hp : p ∈ betweens) (r₂ : List Char) :
    tokens {} (r₁ ++ p.1.toList ++ r₂) =
      tokens {} r₁ ++ .char ' ' :: .join p.2 :: .char ' ' :: tokens {} r₂ := by
  have harrive : r₁.foldl Position.pass {} =
      outside 0 (r₁.foldl Position.pass {}).before := by
    have hskip := skip_foldl_pass {} r₁
    have hquote := hclosed.quote
    have hdepth := hclosed.depth
    generalize r₁.foldl Position.pass {} = q at hskip hquote hdepth
    obtain ⟨quote, depth, before, skip⟩ := q
    subst hskip hquote hdepth
    rfl
  have hscan : ({} : Position).SkipsInert r₁ :=
    ⟨Nat.zero_le _, List.forall_mem_nil _, fun h => absurd rfl h⟩
  obtain ⟨rest, hrest⟩ : ∃ rest, p.1.toList = ' ' :: rest := by
    simp only [betweens, List.mem_cons, List.not_mem_nil, or_false] at hp
    rcases hp with rfl | rfl | rfl <;> exact ⟨_, rfl⟩
  rw [← tokens_between hp (r₁.foldl Position.pass {}).before, ← harrive, List.append_assoc, hrest,
    List.cons_append, tokens_append_blank hscan]

/-! ### Conditions on both sides -/

theorem trim_eq_nil_iff {cs : List Char} : trim cs = [] ↔ ∀ c ∈ cs, isBlank c = true := by
  constructor
  · intro hnil
    obtain ⟨pre, post, hpre, hpost, hcs⟩ := exists_trimmed isBlank cs
    have hparts : cs = pre ++ post := by rwa [← trim, hnil, List.nil_append] at hcs
    rw [hparts]
    exact fun c hc => (List.mem_append.mp hc).elim (hpre c) (hpost c)
  · intro hall
    have htrim := trimBy_padded hall (List.forall_mem_nil _) (w := []) (by simp) (by simp)
    rwa [List.nil_append, List.append_nil] at htrim

theorem trim_cons_blank (cs : List Char) : trim (' ' :: cs) = trim cs := by
  rw [trim, trimBy, List.dropWhile_cons_of_pos (by decide)]
  rfl

theorem trim_concat_blank (cs : List Char) : trim (cs ++ [' ']) = trim cs := by
  rw [trim, trim, trimBy, trimBy, List.dropWhile_append]
  split_ifs with hempty
  · rw [List.isEmpty_iff.mp hempty]
    rfl
  · rw [List.reverse_append, List.reverse_singleton, List.singleton_append,
      List.dropWhile_cons_of_pos (by decide)]

/-- A blank behind a row of tokens changes nothing. -/
theorem conditions_concat_blank (how : Conjunction) (seen : List Char) (ts : List Token) :
    conditions how seen (ts ++ [.char ' ']) = conditions how seen ts := by
  induction ts generalizing how seen with
  | nil =>
      rw [List.nil_append, conditions, conditions, conditions, List.reverse_cons,
        trim_concat_blank]
  | cons t ts ih =>
      cases t with
      | char c => exact ih how (c :: seen)
      | join next =>
          rw [List.cons_append, conditions, conditions]
          cases trim seen.reverse with
          | nil => exact ih _ []
          | cons c text => exact congrArg _ (ih next [])

/-- Nor does one before it. -/
theorem conditions_lead_blank (how : Conjunction) (seen : List Char) (ts : List Token) :
    conditions how (seen ++ [' ']) ts = conditions how seen ts := by
  induction ts generalizing how seen with
  | nil =>
      rw [conditions, conditions, List.reverse_append, List.reverse_singleton,
        List.singleton_append, trim_cons_blank]
  | cons t ts ih =>
      cases t with
      | char c => exact ih how (c :: seen)
      | join next =>
          rw [conditions, conditions, List.reverse_append, List.reverse_singleton,
            List.singleton_append, trim_cons_blank]

/-- The conjunction of the next condition and its characters so far, after one more token. -/
def advance (s : Conjunction × List Char) : Token → Conjunction × List Char
  | .char c => (s.1, c :: s.2)
  | .join how => (if trim s.2.reverse = [] then stronger s.1 how else how, [])

/-- A connector ends what stands before it as the end of a text does. -/
theorem conditions_append_join (s : Conjunction × List Char) (how : Conjunction)
    (ts us : List Token) :
    conditions s.1 s.2 (ts ++ .join how :: us) =
      conditions s.1 s.2 ts ++ conditions (advance (ts.foldl advance s) (.join how)).1 [] us := by
  induction ts generalizing s with
  | nil =>
      rw [List.nil_append, List.foldl_nil, advance, conditions, conditions]
      cases trim s.2.reverse <;> rfl
  | cons t ts ih =>
      cases t with
      | char c => exact ih (s.1, c :: s.2)
      | join next =>
          rw [List.cons_append, List.foldl_cons, conditions, conditions]
          cases htrim : trim s.2.reverse with
          | nil =>
              have hstep : advance s (.join next) = (stronger s.1 next, []) := by
                rw [advance, htrim, if_pos rfl]
              rw [hstep]
              exact ih (stronger s.1 next, [])
          | cons c text =>
              have hstep : advance s (.join next) = (next, []) := by
                rw [advance, htrim, if_neg (List.cons_ne_nil c text)]
              rw [hstep]
              exact congrArg _ (ih (next, []))

theorem stronger_eq_or {a b : Conjunction} : stronger a b = .or ↔ a = .or ∨ b = .or := by
  unfold stronger
  split_ifs with h
  · exact iff_of_true rfl h
  · exact iff_of_false (by decide) h

theorem stronger_plain (a b : Conjunction) : stronger a b = .and ∨ stronger a b = .or := by
  unfold stronger
  split_ifs
  · exact .inr rfl
  · exact .inl rfl

/-- A conjunction before a row of tokens only reaches its first condition. -/
theorem conditions_pending {how : Conjunction} (hhow : how = .and ∨ how = .or)
    (seen : List Char) (ts : List Token) :
    conditions how seen ts =
      (conditions .and seen ts).modifyHead fun p => (stronger how p.1, p.2) := by
  induction ts generalizing how seen with
  | nil =>
      rw [conditions, conditions]
      cases trim seen.reverse with
      | nil => rfl
      | cons c text => rcases hhow with rfl | rfl <;> rfl
  | cons t ts ih =>
      cases t with
      | char c => exact ih hhow (c :: seen)
      | join next =>
          rw [conditions, conditions]
          cases trim seen.reverse with
          | nil =>
              dsimp only
              rw [ih (stronger_plain how next), ih (stronger_plain .and next),
                List.modifyHead_modifyHead]
              refine congrArg (List.modifyHead · _) (funext fun p => ?_)
              have hassoc : stronger (stronger how next) p.1 =
                  stronger how (stronger (stronger .and next) p.1) := by
                simp only [stronger]
                rcases hhow with rfl | rfl <;> by_cases hnext : next = .or <;> simp [hnext]
              exact Prod.ext hassoc rfl
          | cons c text => rcases hhow with rfl | rfl <;> rfl

/-! ### Connectors behind the last condition -/

def Token.isText : Token → Bool
  | .char c => !isBlank c
  | .join _ => false

def Token.join? : Token → Option Conjunction
  | .char _ => none
  | .join how => some how

/-- The connectors behind the last condition; all of them if there is none. -/
def behind (ts : List Token) : List Conjunction :=
  (ts.rtakeWhile fun t => !t.isText).filterMap Token.join?

theorem behind_concat_char (ts : List Token) (c : Char) :
    behind (ts ++ [.char c]) = if isBlank c then behind ts else [] := by
  unfold behind
  cases hc : isBlank c with
  | true =>
      rw [List.rtakeWhile_concat_pos _ _ _ (by simp [Token.isText, hc]), List.filterMap_append,
        if_pos rfl]
      exact List.append_nil _
  | false =>
      rw [List.rtakeWhile_concat_neg _ _ _ (by simp [Token.isText, hc]), if_neg (by decide)]
      rfl

theorem behind_concat_join (ts : List Token) (how : Conjunction) :
    behind (ts ++ [.join how]) = behind ts ++ [how] := by
  unfold behind
  rw [List.rtakeWhile_concat_pos _ _ _ rfl, List.filterMap_append]
  rfl

/-- What a scan of conditions keeps: while it has seen no text of the next one, its conjunction
tells whether an `or` stands behind the last one. -/
structure Trails (ts : List Token) (s : Conjunction × List Char) : Prop where
  blank : trim s.2.reverse = [] → (s.1 = .or ↔ .or ∈ behind ts)
  text : trim s.2.reverse ≠ [] → behind ts = []

theorem Trails.advance {ts : List Token} {s : Conjunction × List Char} (h : Trails ts s)
    (t : Token) : Trails (ts ++ [t]) (advance s t) := by
  cases t with
  | char c =>
      have hseen : trim (c :: s.2).reverse = [] ↔ isBlank c = true ∧ trim s.2.reverse = [] := by
        simp [trim_eq_nil_iff, or_imp, forall_and, and_comm]
      constructor
      · intro hnil
        obtain ⟨hc, hrest⟩ := hseen.mp hnil
        rw [behind_concat_char, if_pos hc]
        exact h.blank hrest
      · intro hne
        rw [behind_concat_char]
        split_ifs with hc
        · exact h.text fun hrest => hne (hseen.mpr ⟨hc, hrest⟩)
        · rfl
  | join how =>
      refine ⟨fun _ => ?_, fun hne => absurd rfl hne⟩
      rw [behind_concat_join, List.mem_append, List.mem_singleton, Filter.advance]
      by_cases hnil : trim s.2.reverse = []
      · rw [if_pos hnil, stronger_eq_or, h.blank hnil]
        exact or_congr_right eq_comm
      · rw [if_neg hnil, h.text hnil]
        simp [eq_comm]

theorem trails_foldl (ts : List Token) : Trails ts (ts.foldl advance (.and, [])) := by
  induction ts using List.reverseRecOn with
  | nil => exact ⟨fun _ => by decide, fun hne => absurd rfl hne⟩
  | append_singleton ts t ih =>
      rw [List.foldl_concat]
      exact ih.advance t

/-- The connectors of a text behind its last condition. -/
def trailing (cs : List Char) : List Conjunction := behind (tokens {} cs)

theorem split_between {r₁ : List Char} (hclosed : IsClosed r₁) {p : String × Conjunction}
    (hp : p ∈ betweens) (r₂ : List Char) :
    split (r₁ ++ p.1.toList ++ r₂) =
      split r₁ ++ (split r₂).modifyHead fun q =>
        (if q.1 = .or ∨ p.2 = .or ∨ .or ∈ trailing r₁ then .or else .and, q.2) := by
  have hparts := conditions_append_join (.and, []) p.2 (tokens {} r₁ ++ [.char ' '])
    (.char ' ' :: tokens {} r₂)
  have htrails := (trails_foldl (tokens {} r₁ ++ [.char ' '])).advance (.join p.2)
  generalize (tokens {} r₁ ++ [Token.char ' ']).foldl advance (.and, []) = s at hparts htrails
  have hpending := htrails.blank rfl
  rw [behind_concat_join, behind_concat_char, if_pos (by decide), ← trailing] at hpending
  have hplain : (advance s (.join p.2)).1 = .and ∨ (advance s (.join p.2)).1 = .or := by
    rw [advance]
    split_ifs
    · exact stronger_plain _ _
    · simp only [betweens, List.mem_cons, List.not_mem_nil, or_false] at hp
      rcases hp with rfl | rfl | rfl
      · exact .inr rfl
      · exact .inl rfl
      · exact .inl rfl
  have hlead := conditions_lead_blank (advance s (.join p.2)).1 [] (tokens {} r₂)
  rw [split, tokens_joined hclosed hp, List.append_cons, hparts, conditions_concat_blank,
    conditions, ← List.nil_append [' '], hlead, conditions_pending hplain, ← split, ← split]
  refine congrArg (split r₁ ++ List.modifyHead · _) (funext fun q => ?_)
  generalize (advance s (.join p.2)).1 = how at hpending hplain
  have hreach : how = .or ∨ q.1 = .or ↔ q.1 = .or ∨ p.2 = .or ∨ .or ∈ trailing r₁ := by
    rw [hpending, List.mem_append, List.mem_singleton, eq_comm (a := p.2)]
    tauto
  exact Prod.ext (if_congr hreach rfl rfl) rfl

/-- Two filter texts with a connector between blanks have the conditions of both. An `or` joins the
first condition of the second text; another connector does so if an `or` stands before that
condition anyway. -/
theorem split_joined {r₁ : List Char} (hclosed : IsClosed r₁) (r₂ : List Char) :
    split (r₁ ++ " or ".toList ++ r₂) =
        split r₁ ++ (split r₂).modifyHead (fun p => (.or, p.2)) ∧
      ∀ mid ∈ [" and ", " , "], split (r₁ ++ mid.toList ++ r₂) =
        split r₁ ++ (split r₂).modifyHead fun p =>
          (if p.1 = .or ∨ .or ∈ trailing r₁ then .or else .and, p.2) := by
  constructor
  · rw [split_between hclosed (p := (" or ", .or)) (by decide)]
    simp
  · intro mid hmid
    have hp : (mid, .and) ∈ betweens := by
      simp only [List.mem_cons, List.not_mem_nil, or_false] at hmid
      rcases hmid with rfl | rfl <;> decide
    rw [split_between hclosed hp]
    simp

/-- Quotes, brackets and connectors in the first text, with an `or` behind its last condition. -/
def openEnded : List Char := "title='a, or (b' and size in (1, 2) or , ".toList

theorem openEnded_joined : IsClosed openEnded ∧ trailing openEnded = [.or, .and] ∧
    split (openEnded ++ " and ".toList ++ "and kind=memo, year>1".toList) =
      [(.and, "title='a, or (b'".toList), (.and, "size in (1, 2)".toList),
        (.or, "kind=memo".toList), (.and, "year>1".toList)] := by
  have hclosed : IsClosed openEnded := ⟨by decide, by decide⟩
  have htrailing : trailing openEnded = [.or, .and] := by decide
  refine ⟨hclosed, htrailing, ?_⟩
  rw [(split_joined hclosed "and kind=memo, year>1".toList).2 " and " (by decide), htrailing]
  decide

end CriteriaSearch.Filter
