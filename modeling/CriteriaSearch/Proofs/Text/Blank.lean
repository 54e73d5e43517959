import CriteriaSearch.Text.Blank

/-!
# Blanks around words

Trimming finds a text between blanks again, and the words of a text are the pieces between its
blanks.
-/

namespace CriteriaSearch.Text

variable {p : Char → Bool} {pre w post rest : List Char}

theorem forall_head_cons {P : Char → Prop} {c : Char} (hc : P c) (cs : List Char) :
    ∀ d ∈ (c :: cs).head?, P d := by
  intro d hd
  rwa [← Option.some.inj hd]

theorem head_append {w : List Char} (hne : w ≠ []) {P : Char → Prop} (hw : ∀ c ∈ w, P c)
    (rest : List Char) : ∀ c ∈ (w ++ rest).head?, P c := by
  cases w with
  | nil => exact absurd rfl hne
  | cons c cs => exact forall_head_cons (hw c List.mem_cons_self) (cs ++ rest)

theorem getLast?_enclosed (a b : Char) (w : List Char) : (a :: (w ++ [b])).getLast? = some b := by
  rw [← List.cons_append, List.getLast?_concat]

theorem getLast?_append_right {u w : List Char} (hw : w ≠ []) :
    (u ++ w).getLast? = w.getLast? := by
  rw [List.getLast?_append, List.getLast?_eq_some_getLast hw, Option.some_or]

theorem dropWhile_of_head (hw : ∀ c ∈ w.head?, p c = false) : w.dropWhile p = w := by
  cases w with
  | nil => rfl
  | cons c cs => exact List.dropWhile_cons_of_neg (by simpa using hw c rfl)

/-- What trimming drops. -/
theorem exists_trimmed (p : Char → Bool) (cs : List Char) : ∃ pre post,
    (∀ c ∈ pre, p c = true) ∧ (∀ c ∈ post, p c = true) ∧ cs = pre ++ (trimBy p cs ++ post) := by
  refine ⟨cs.takeWhile p, ((cs.dropWhile p).reverse.takeWhile p).reverse, ?_, ?_, ?_⟩
  · exact fun c hc => List.all_eq_true.mp List.all_takeWhile c hc
  · exact fun c hc => List.all_eq_true.mp List.all_takeWhile c (List.mem_reverse.mp hc)
  · rw [trimBy, ← List.reverse_append, List.takeWhile_append_dropWhile, List.reverse_reverse,
      List.takeWhile_append_dropWhile]

theorem mem_of_mem_trimBy {c : Char} {cs : List Char} (hc : c ∈ trimBy p cs) : c ∈ cs := by
  obtain ⟨pre, post, -, -, hcs⟩ := exists_trimmed p cs
  rw [hcs]
  exact List.mem_append_right pre (List.mem_append_left post hc)

theorem trimBy_padded (hpre : ∀ c ∈ pre, p c = true) (hpost : ∀ c ∈ post, p c = true)
    (hfirst : ∀ c ∈ w.head?, p c = false) (hlast : ∀ c ∈ w.getLast?, p c = false) :
    trimBy p (pre ++ (w ++ post)) = w := by
  have hpost' : ∀ c ∈ post.reverse, p c = true := fun c hc => hpost c (List.mem_reverse.mp hc)
  have hlast' : ∀ c ∈ w.reverse.head?, p c = false := by rwa [List.head?_reverse]
  rw [trimBy, List.dropWhile_append_of_pos hpre]
  cases w with
  | nil =>
      have hall : (post ++ []).dropWhile p = [] := List.dropWhile_append_of_pos hpost
      rw [List.append_nil] at hall
      simp [hall]
  | cons c cs =>
      have hhead : ((c :: cs) ++ post).dropWhile p = (c :: cs) ++ post :=
        dropWhile_of_head fun d hd => hfirst d hd
      rw [hhead, List.reverse_append, List.dropWhile_append_of_pos hpost',
        dropWhile_of_head hlast', List.reverse_reverse]

theorem trimBy_eq_self (hfirst : ∀ c ∈ w.head?, p c = false)
    (hlast : ∀ c ∈ w.getLast?, p c = false) : trimBy p w = w := by
  have h := trimBy_padded (List.forall_mem_nil _) (List.forall_mem_nil _) hfirst hlast
  simpa using h

/-- Trimming keeps what stands in front, up to the blanks at the end. -/
theorem trimBy_front (hpre : ∀ c ∈ pre, p c = true) (hne : w ≠ []) (hw : ∀ c ∈ w, p c = false)
    (rest : List Char) :
    trimBy p (pre ++ (w ++ rest)) = w ++ (rest.reverse.dropWhile p).reverse := by
  have hhead : (w ++ rest).dropWhile p = w ++ rest := dropWhile_of_head (head_append hne hw rest)
  have hback : w.reverse.dropWhile p = w.reverse := by
    apply dropWhile_of_head
    intro c hc
    exact hw c (List.mem_reverse.mp (List.mem_of_mem_head? hc))
  rw [trimBy, List.dropWhile_append_of_pos hpre, hhead, List.reverse_append, List.dropWhile_append,
    hback]
  split
  · next hempty =>
      rw [List.isEmpty_iff.mp hempty, List.reverse_reverse, List.reverse_nil, List.append_nil]
  · rw [List.reverse_append, List.reverse_reverse]

/-- A text between blanks, in the order in which a scan has seen it, last character first. -/
theorem trim_seen {pad lead : List Char} (hpad : ∀ c ∈ pad, isBlank c = true)
    (hlead : ∀ c ∈ lead, isBlank c = true) (hfirst : ∀ c ∈ w.head?, isBlank c = false)
    (hlast : ∀ c ∈ w.getLast?, isBlank c = false) :
    trim (lead.reverse ++ (w.reverse ++ pad)).reverse = w := by
  have hpad' : ∀ c ∈ pad.reverse, isBlank c = true := fun c hc =>
    hpad c (List.mem_reverse.mp hc)
  rw [List.reverse_append, List.reverse_append, List.reverse_reverse, List.reverse_reverse,
    List.append_assoc]
  exact trimBy_padded hpad' hlead hfirst hlast

/-- Taking goes no further than a character that stops it. -/
theorem takeWhile_append_stop {d : Char} (hd : p d = false) (w rest : List Char) :
    (w ++ d :: rest).takeWhile p = w.takeWhile p := by
  induction w with
  | nil => exact List.takeWhile_cons_of_neg (by simp [hd])
  | cons c w ih =>
      rw [List.cons_append, List.takeWhile_cons, List.takeWhile_cons, ih]

theorem dropWhile_append_stop {d : Char} (hd : p d = false) (w rest : List Char) :
    (w ++ d :: rest).dropWhile p = w.dropWhile p ++ d :: rest := by
  induction w with
  | nil => exact List.dropWhile_cons_of_neg (by simp [hd])
  | cons c w ih =>
      rw [List.cons_append, List.dropWhile_cons, List.dropWhile_cons, ih]
      split <;> rfl

/-! ### Pieces -/

theorem afterPrefix?_append (pre rest : List Char) :
    afterPrefix? pre (pre ++ rest) = some rest := by
  induction pre with
  | nil => cases rest <;> rfl
  | cons p pre ih => rw [List.cons_append, afterPrefix?, if_pos rfl, ih]

theorem afterPrefix?_single (c : Char) (rest : List Char) :
    afterPrefix? [c] (c :: rest) = some rest :=
  afterPrefix?_append [c] rest

theorem splitAt_of_not_mem {sep : Char} (hw : sep ∉ w) : splitAt sep w = [w] := by
  induction w with
  | nil => rfl
  | cons c w ih =>
      have hne : c ≠ sep := fun heq => hw (heq ▸ List.mem_cons_self)
      have hrest := ih fun hmem => hw (List.mem_cons_of_mem c hmem)
      rw [splitAt, if_neg hne, hrest]

/-- A text is cut behind its first piece. -/
theorem splitAt_append {sep : Char} (hw : sep ∉ w) (rest : List Char) :
    splitAt sep (w ++ sep :: rest) = w :: splitAt sep rest := by
  induction w with
  | nil => rw [List.nil_append, splitAt, if_pos rfl]
  | cons c w ih =>
      have hne : c ≠ sep := fun heq => hw (heq ▸ List.mem_cons_self)
      have hrest := ih fun hmem => hw (List.mem_cons_of_mem c hmem)
      rw [List.cons_append, splitAt, if_neg hne, hrest]

theorem splitAt_ne_nil (sep : Char) (cs : List Char) : splitAt sep cs ≠ [] := by
  cases cs with
  | nil => exact List.cons_ne_nil _ _
  | cons c cs =>
      rw [splitAt]
      split
      · exact List.cons_ne_nil _ _
      · split <;> exact List.cons_ne_nil _ _

/-- A text that is one piece is this piece. -/
theorem splitAt_eq_singleton {sep : Char} {cs piece : List Char} (h : splitAt sep cs = [piece]) :
    piece = cs := by
  induction cs generalizing piece with
  | nil => exact (List.singleton_inj.mp h).symm
  | cons c cs ih =>
      rw [splitAt] at h
      by_cases hc : c = sep
      · rw [if_pos hc] at h
        exact absurd (List.cons.inj h).2 (splitAt_ne_nil sep cs)
      · rw [if_neg hc] at h
        cases hrest : splitAt sep cs with
        | nil => exact absurd hrest (splitAt_ne_nil sep cs)
        | cons first others =>
            rw [hrest] at h
            obtain ⟨rfl, rfl⟩ := List.cons.inj h
            rw [ih hrest]

theorem toList_joinWith_cons (sep s t : String) (rest : List String) :
    (joinWith sep (s :: t :: rest)).toList =
      s.toList ++ (sep.toList ++ (joinWith sep (t :: rest)).toList) := by
  simp [joinWith]

/-- Pieces are found again between the separators that join them. -/
theorem splitAt_joinWith {sep : Char} {pieces : List String} (hne : pieces ≠ [])
    (hpieces : ∀ piece ∈ pieces, sep ∉ piece.toList) :
    splitAt sep (joinWith (String.singleton sep) pieces).toList = pieces.map String.toList := by
  induction pieces with
  | nil => exact absurd rfl hne
  | cons s pieces ih =>
      obtain ⟨hs, hrest⟩ := List.forall_mem_cons.mp hpieces
      cases pieces with
      | nil => exact splitAt_of_not_mem hs
      | cons t pieces =>
          rw [toList_joinWith_cons, String.toList_singleton, List.singleton_append,
            splitAt_append hs, ih (List.cons_ne_nil t pieces) hrest, List.map_cons, List.map_cons,
            List.map_cons]

/-! ### Words -/

/-- A text without blanks. -/
abbrev Solid (w : List Char) : Prop := ∀ c ∈ w, isBlank c = false

theorem takeWhile_solid (hw : Solid w) (hrest : ∀ c ∈ rest.head?, isBlank c = true) :
    (w ++ rest).takeWhile (!isBlank ·) = w := by
  have hw' : ∀ c ∈ w, (!isBlank c) = true := fun c hc => by rw [hw c hc, Bool.not_false]
  rw [List.takeWhile_append_of_pos hw']
  cases rest with
  | nil => simp
  | cons c cs =>
      have hc : ¬ (!isBlank c) = true := by simp [hrest c rfl]
      have hnil : (c :: cs).takeWhile (!isBlank ·) = [] := List.takeWhile_cons_of_neg hc
      rw [hnil, List.append_nil]

theorem dropWhile_solid (hw : Solid w) (hrest : ∀ c ∈ rest.head?, isBlank c = true) :
    (w ++ rest).dropWhile (!isBlank ·) = rest := by
  have hw' : ∀ c ∈ w, (!isBlank c) = true := fun c hc => by rw [hw c hc, Bool.not_false]
  rw [List.dropWhile_append_of_pos hw']
  exact dropWhile_of_head fun c hc => by rw [hrest c hc, Bool.not_true]

theorem words_blank {c : Char} (hc : isBlank c = true) (cs : List Char) :
    words (c :: cs) = words cs := by
  cases cs with
  | nil => simp [words, hc]
  | cons d cs => rw [words, if_pos hc]

theorem words_single {c : Char} (hc : isBlank c = false) : words [c] = [[c]] := by
  simp [words, hc]

/-- A character that is no blank before another one continues its word. -/
theorem words_cons_cons {c d : Char} {cs word : List Char} {ws : List (List Char)}
    (hc : isBlank c = false) (hd : isBlank d = false) (h : words (d :: cs) = word :: ws) :
    words (c :: d :: cs) = (c :: word) :: ws := by
  rw [words, if_neg (by simp [hc]), if_neg (by simp [hd]), h]

theorem words_cons {c : Char} (hc : isBlank c = false) (cs : List Char) :
    ∃ word ws, words (c :: cs) = (c :: word) :: ws := by
  cases cs with
  | nil => exact ⟨[], [], words_single hc⟩
  | cons d cs =>
      rw [words, if_neg (by simp [hc])]
      split
      · exact ⟨[], _, rfl⟩
      · cases words (d :: cs) with
        | nil => exact ⟨[], [], rfl⟩
        | cons word ws => exact ⟨word, ws, rfl⟩

/-- A word up to the next blank. -/
theorem words_append (hne : w ≠ []) (hw : Solid w) (hrest : ∀ c ∈ rest.head?, isBlank c = true) :
    words (w ++ rest) = w :: words rest := by
  induction w with
  | nil => exact absurd rfl hne
  | cons c w ih =>
      have hc := hw c List.mem_cons_self
      cases w with
      | nil =>
          cases rest with
          | nil => exact words_single hc
          | cons d rest =>
              have hd : isBlank d = true := hrest d rfl
              rw [List.singleton_append, words, if_neg (by simp [hc]), if_pos hd]
      | cons d w =>
          have hd := hw d (List.mem_cons_of_mem c List.mem_cons_self)
          exact words_cons_cons hc hd
            (ih (List.cons_ne_nil d w) fun e he => hw e (List.mem_cons_of_mem c he))

theorem words_of_prefix (hne : w ≠ []) (hw : Solid w) (rest : List Char) :
    ∃ word ws, words (w ++ rest) = (w ++ word) :: ws := by
  induction w with
  | nil => exact absurd rfl hne
  | cons c w ih =>
      have hc := hw c List.mem_cons_self
      cases w with
      | nil => exact words_cons hc rest
      | cons d w =>
          have hd := hw d (List.mem_cons_of_mem c List.mem_cons_self)
          obtain ⟨word, ws, h⟩ :=
            ih (List.cons_ne_nil d w) fun e he => hw e (List.mem_cons_of_mem c he)
          exact ⟨word, ws, words_cons_cons hc hd h⟩

end CriteriaSearch.Text
