import Mathlib.Data.List.TakeWhile
import CriteriaSearch.Proofs.Text.Blank
import CriteriaSearch.Proofs.Text.Encoding
import CriteriaSearch.Url.Form

/-!
# Form data is read back

A text may be written as form data in several ways: a plain character as it stands or by its bytes,
a blank also as `+`, a hexadecimal digit in either case. However pairs are written, the same pairs
are read.
-/

namespace CriteriaSearch.Form

open Text

/-! ### Written forms -/

/-- A byte as a percent sign and two hexadecimal digits. -/
inductive WrittenByte (b : UInt8) : List Char → Prop
  | digits {x y : Char} (high : hexValue? x = some (b.toNat / 16))
      (low : hexValue? y = some (b.toNat % 16)) : WrittenByte b ['%', x, y]

inductive WrittenBytes : List UInt8 → List Char → Prop
  | nil : WrittenBytes [] []
  | cons {b : UInt8} {bs : List UInt8} {w rest : List Char} (first : WrittenByte b w)
      (others : WrittenBytes bs rest) : WrittenBytes (b :: bs) (w ++ rest)

/-- A character as it stands, as a plus sign for a blank, or as the bytes of UTF-8. -/
inductive WrittenChar : Char → List Char → Prop
  | plain {c : Char} (h : isPlain c = true) : WrittenChar c [c]
  | blank : WrittenChar ' ' ['+']
  | bytes {c : Char} {w : List Char} (h : WrittenBytes (String.utf8EncodeChar c) w) :
      WrittenChar c w

inductive WrittenText : List Char → List Char → Prop
  | nil : WrittenText [] []
  | cons {c : Char} {cs w rest : List Char} (first : WrittenChar c w)
      (others : WrittenText cs rest) : WrittenText (c :: cs) (w ++ rest)

inductive WrittenPair (p : String × String) : List Char → Prop
  | mk {name w : List Char} (left : WrittenText p.1.toList name)
      (right : WrittenText p.2.toList w) : WrittenPair p (name ++ '=' :: w)

/-- Pairs with an ampersand between neighbours. -/
inductive Written : List (String × String) → List Char → Prop
  | nil : Written [] []
  | last {p : String × String} {w : List Char} (pair : WrittenPair p w) : Written [p] w
  | more {p q : String × String} {ps : List (String × String)} {w rest : List Char}
      (pair : WrittenPair p w) (others : Written (q :: ps) rest) :
      Written (p :: q :: ps) (w ++ '&' :: rest)

/-! ### Characters of written forms -/

def isSafe (c : Char) : Bool := isPlain c || c == '+' || c == '%'

theorem isSafe_of_isPlain {c : Char} (h : isPlain c = true) : isSafe c = true := by
  simp [isSafe, h]

theorem ne_of_isSafe {c d : Char} (hc : isSafe c = true) (hd : isSafe d = false) : c ≠ d := by
  rintro rfl
  rw [hc] at hd
  cases hd

theorem isPlain_of_hexValue? {c : Char} {n : Nat} (h : hexValue? c = some n) :
    isPlain c = true := by
  have hcases : c.isAlphanum = (decide (c.val ≥ 'A'.val ∧ c.val ≤ 'Z'.val) ||
      (decide (c.val ≥ 'a'.val) && decide (c.val ≤ 'z'.val)) || c.isDigit) := rfl
  have halnum : c.isAlphanum = true := by
    rw [hcases]
    unfold hexValue? at h
    split_ifs at h with hdigit hlower hupper
    · rw [hdigit, Bool.or_true]
    · have hlow : c.val ≥ 'a'.val := hlower.1
      have hhigh : c.val ≤ 'z'.val := UInt32.le_trans hlower.2 (by decide)
      rw [decide_eq_true hlow, decide_eq_true hhigh, Bool.and_true, Bool.or_true, Bool.true_or]
    · have hrange : c.val ≥ 'A'.val ∧ c.val ≤ 'Z'.val :=
        ⟨hupper.1, UInt32.le_trans hupper.2 (by decide)⟩
      rw [decide_eq_true hrange, Bool.true_or, Bool.true_or]
  simp [isPlain, halnum]

theorem WrittenBytes.isSafe {bs : List UInt8} {w : List Char} (h : WrittenBytes bs w) :
    ∀ c ∈ w, isSafe c = true := by
  induction h with
  | nil => exact List.forall_mem_nil _
  | @cons b bs w rest first others ih =>
      cases first with
      | @digits x y high low =>
          have hx := isSafe_of_isPlain (isPlain_of_hexValue? high)
          have hy := isSafe_of_isPlain (isPlain_of_hexValue? low)
          have hpercent : Form.isSafe '%' = true := by decide
          exact List.forall_mem_append.mpr ⟨by simp [hx, hy, hpercent], ih⟩

theorem WrittenText.isSafe {cs w : List Char} (h : WrittenText cs w) :
    ∀ c ∈ w, isSafe c = true := by
  induction h with
  | nil => exact List.forall_mem_nil _
  | @cons c cs w rest first others ih =>
      refine List.forall_mem_append.mpr ⟨?_, ih⟩
      cases first with
      | plain h => exact List.forall_mem_singleton.mpr (isSafe_of_isPlain h)
      | blank => exact List.forall_mem_singleton.mpr (by decide)
      | bytes h => exact h.isSafe

/-- Written pairs consist of safe characters and their two separators. -/
theorem Written.isSafe {ps : List (String × String)} {w : List Char} (h : Written ps w) :
    ∀ c ∈ w, isSafe c = true ∨ c = '=' ∨ c = '&' := by
  have hpair : ∀ {p : String × String} {w : List Char}, WrittenPair p w →
      ∀ c ∈ w, Form.isSafe c = true ∨ c = '=' := by
    rintro p w ⟨left, right⟩ c hc
    rcases List.mem_append.mp hc with hc | hc
    · exact .inl (left.isSafe c hc)
    · rcases List.mem_cons.mp hc with rfl | hc
      · exact .inr rfl
      · exact .inl (right.isSafe c hc)
  induction h with
  | nil => exact List.forall_mem_nil _
  | last pair => exact fun c hc => (hpair pair c hc).imp_right .inl
  | more pair others ih =>
      intro c hc
      rcases List.mem_append.mp hc with hc | hc
      · exact (hpair pair c hc).imp_right .inl
      · rcases List.mem_cons.mp hc with rfl | hc
        · exact .inr (.inr rfl)
        · exact ih c hc

/-! ### Reading -/

/-- A plus sign as the blank that it stands for. -/
def unplus (c : Char) : Char := if c = '+' then ' ' else c

theorem unplus_of_isPlain {c : Char} (h : isPlain c = true) : unplus c = c := by
  refine if_neg ?_
  rintro rfl
  exact absurd h (by decide)

theorem bytes_cons {c : Char} (hc : c ≠ '%') (cs : List Char) :
    bytes (c :: cs) = String.utf8EncodeChar c ++ bytes cs :=
  bytes.eq_3 c cs fun _ _ _ h _ => hc h

theorem bytes_writtenBytes {bs : List UInt8} {w : List Char} (h : WrittenBytes bs w)
    (rest : List Char) : bytes (w.map unplus ++ rest) = bs ++ bytes rest := by
  induction h with
  | nil => rfl
  | @cons b bs w w' first others ih =>
      cases first with
      | @digits x y high low =>
          have hsplit : 16 * (b.toNat / 16) + b.toNat % 16 = b.toNat := Nat.div_add_mod b.toNat 16
          have hpercent : unplus '%' = '%' := by decide
          have hmap : (['%', x, y] ++ w').map unplus ++ rest =
              '%' :: x :: y :: (w'.map unplus ++ rest) := by
            simp [hpercent, unplus_of_isPlain (isPlain_of_hexValue? high),
              unplus_of_isPlain (isPlain_of_hexValue? low)]
          rw [hmap, bytes.eq_2, high, low]
          dsimp only
          rw [hsplit, UInt8.ofNat_toNat, ih, List.cons_append]

/-- A character is read as its bytes, whichever way it is written. -/
theorem bytes_writtenChar {c : Char} {w : List Char} (h : WrittenChar c w) (rest : List Char) :
    bytes (w.map unplus ++ rest) = String.utf8EncodeChar c ++ bytes rest := by
  cases h with
  | plain h =>
      have hne : c ≠ '%' := by
        rintro rfl
        exact absurd h (by decide)
      rw [List.map_singleton, unplus_of_isPlain h, List.singleton_append, bytes_cons hne]
  | blank =>
      have hblank : ['+'].map unplus = [' '] := by decide
      rw [hblank, List.singleton_append, bytes_cons (by decide)]
  | bytes h => exact bytes_writtenBytes h rest

theorem bytes_writtenText {cs w : List Char} (h : WrittenText cs w) :
    bytes (w.map unplus) = cs.flatMap String.utf8EncodeChar := by
  induction h with
  | nil => rfl
  | cons first others ih =>
      rw [List.map_append, bytes_writtenChar first, ih, List.flatMap_cons]

theorem decode_writtenText {cs w : List Char} (h : WrittenText cs w) : decode w = cs := by
  have hbytes := bytes_writtenText h
  unfold unplus at hbytes
  rw [decode, unescape, hbytes, Encoding.lossy_utf8_flatMap]

theorem pair_writtenPair {p : String × String} {w : List Char} (h : WrittenPair p w) :
    pair w = p := by
  cases h with
  | @mk name w left right =>
      have hname : ∀ c ∈ name, (c != '=') = true := fun c hc => by
        simpa using ne_of_isSafe (left.isSafe c hc) (by decide)
      have hleft : name.takeWhile (· != '=') = name := List.takeWhile_eq_self_iff.mpr hname
      have hnone : name.dropWhile (· != '=') = [] := List.dropWhile_eq_nil_iff.mpr hname
      rw [pair, takeWhile_append_stop (by decide), dropWhile_append_stop (by decide), hleft, hnone,
        List.nil_append, List.drop_one, List.tail_cons, decode_writtenText left,
        decode_writtenText right, String.ofList_toList, String.ofList_toList]

theorem WrittenPair.ampersand {p : String × String} {w : List Char} (h : WrittenPair p w) :
    '&' ∉ w := by
  obtain ⟨left, right⟩ := h
  have hne : ∀ {cs w : List Char}, WrittenText cs w → '&' ∉ w := fun h hmem =>
    ne_of_isSafe (h.isSafe '&' hmem) (by decide) rfl
  simp [hne left, hne right]

theorem WrittenPair.isEmpty {p : String × String} {w : List Char} (h : WrittenPair p w) :
    w.isEmpty = false := by
  obtain ⟨left, right⟩ := h
  simp

/-- Pairs are read from each of their written forms. -/
theorem pairs_written {ps : List (String × String)} {w : List Char} (h : Written ps w) :
    pairs w = ps := by
  unfold pairs
  induction h with
  | nil => rfl
  | last pair =>
      rw [splitAt_of_not_mem pair.ampersand, List.filter_cons_of_pos (by simp [pair.isEmpty]),
        List.filter_nil, List.map_singleton, pair_writtenPair pair]
  | more pair others ih =>
      rw [splitAt_append pair.ampersand, List.filter_cons_of_pos (by simp [pair.isEmpty]),
        List.map_cons, pair_writtenPair pair, ih]

/-! ### The writer -/

theorem hexValue?_hexDigit {n : Nat} (hn : n < 16) : hexValue? (hexDigit n) = some n := by
  have hall : ∀ n < 16, hexValue? (hexDigit n) = some n := by decide
  exact hall n hn

theorem writtenByte_percent (b : UInt8) : WrittenByte b (percent b) := by
  have hlt : b.toNat < 256 := b.toNat_lt
  have hhigh : b.toNat / 16 % 16 = b.toNat / 16 := Nat.mod_eq_of_lt (by omega)
  have hpercent : percent b = ['%', hexDigit (b.toNat / 16 % 16), hexDigit (b.toNat % 16)] := rfl
  rw [hpercent, hhigh]
  exact .digits (hexValue?_hexDigit (by omega)) (hexValue?_hexDigit (by omega))

theorem writtenBytes_flatMap (bs : List UInt8) : WrittenBytes bs (bs.flatMap percent) := by
  induction bs with
  | nil => exact .nil
  | cons b bs ih => exact .cons (writtenByte_percent b) ih

theorem writtenChar_encodeChar (c : Char) : WrittenChar c (encodeChar c) := by
  unfold encodeChar
  split_ifs with hplain
  · exact .plain hplain
  · exact .bytes (writtenBytes_flatMap _)

/-- A text is written character by character. -/
theorem writtenText_flatMap {write : Char → List Char} (h : ∀ c, WrittenChar c (write c))
    (cs : List Char) : WrittenText cs (cs.flatMap write) := by
  induction cs with
  | nil => exact .nil
  | cons c cs ih => exact .cons (h c) ih

theorem writtenText_encode (cs : List Char) : WrittenText cs (encode cs) :=
  writtenText_flatMap writtenChar_encodeChar cs

/-- Pairs are written one by one. -/
theorem written_intercalate {write : String × String → List Char}
    (h : ∀ p, WrittenPair p (write p)) (ps : List (String × String)) :
    Written ps (['&'].intercalate (ps.map write)) := by
  induction ps with
  | nil => exact .nil
  | cons p ps ih =>
      cases ps with
      | nil =>
          rw [List.map_singleton, List.intercalate_singleton]
          exact .last (h p)
      | cons q ps =>
          rw [List.map_cons, List.map_cons, List.intercalate_cons_cons, List.append_assoc,
            List.singleton_append]
          exact .more (h p) ih

theorem render_eq (ps : List (String × String)) :
    render ps = ['&'].intercalate (ps.map renderPair) := by
  induction ps with
  | nil => rfl
  | cons p ps ih =>
      cases ps with
      | nil => rw [render, List.map_singleton, List.intercalate_singleton]
      | cons q ps =>
          have hrender : render (p :: q :: ps) = renderPair p ++ '&' :: render (q :: ps) := rfl
          rw [hrender, ih, List.map_cons, List.map_cons, List.map_cons,
            List.intercalate_cons_cons, List.append_assoc, List.singleton_append]

/-- What is rendered is one of the written forms. -/
theorem written_render (ps : List (String × String)) : Written ps (render ps) := by
  rw [render_eq]
  exact written_intercalate (fun _ => .mk (writtenText_encode _) (writtenText_encode _)) ps

/-! ### Plus signs -/

/-- A character with a plus sign for a blank. -/
def plusChar (c : Char) : List Char := if c = ' ' then ['+'] else encodeChar c

def plusText (cs : List Char) : List Char := cs.flatMap plusChar

def plusPair (p : String × String) : List Char :=
  plusText p.1.toList ++ '=' :: plusText p.2.toList

def plusPairs (ps : List (String × String)) : List Char := ['&'].intercalate (ps.map plusPair)

theorem writtenChar_plusChar (c : Char) : WrittenChar c (plusChar c) := by
  unfold plusChar
  split_ifs with hblank
  · rw [hblank]
    exact .blank
  · exact writtenChar_encodeChar c

theorem writtenText_plusText (cs : List Char) : WrittenText cs (plusText cs) :=
  writtenText_flatMap writtenChar_plusChar cs

/-- Blanks may be written as plus signs. -/
theorem written_plusPairs (ps : List (String × String)) : Written ps (plusPairs ps) :=
  written_intercalate (fun _ => .mk (writtenText_plusText _) (writtenText_plusText _)) ps

end CriteriaSearch.Form
