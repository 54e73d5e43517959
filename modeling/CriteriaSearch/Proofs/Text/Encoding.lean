import CriteriaSearch.Text.Encoding
import Mathlib.Tactic.IntervalCases

/-!
# UTF-8 is read back

The bytes of a character are read as this character, and what follows them is read from the
beginning. So the bytes of a text are read as the text.
-/

namespace CriteriaSearch.Text.Encoding

theorem toNat_valid (c : Char) :
    c.toNat < 0xD800 ∨ 0xDFFF < c.toNat ∧ c.toNat < 0x110000 := c.valid

/-- A byte that continues a sequence adds six bits. -/
theorem utf8From_continued {count low high x n : Nat} (hlow : low ≤ n % 64 + 128)
    (hhigh : n % 64 + 128 ≤ high) (bs : List UInt8) :
    utf8From (some ⟨count + 2, low, high, x⟩) (UInt8.ofNat (n % 64 + 128) :: bs) =
      utf8From (some ⟨count + 1, 0x80, 0xBF, x * 64 + n % 64⟩) bs := by
  have hbyte : (UInt8.ofNat (n % 64 + 128)).toNat = n % 64 + 128 :=
    UInt8.toNat_ofNat_of_lt' (show _ < 256 by omega)
  rw [utf8From]
  simp only [hbyte]
  rw [if_pos ⟨hlow, hhigh⟩, if_neg (by omega), Nat.add_sub_cancel]
  rfl

/-- The last byte of a sequence completes its character. -/
theorem utf8From_completed {low high x n : Nat} (hlow : low ≤ n % 64 + 128)
    (hhigh : n % 64 + 128 ≤ high) (bs : List UInt8) :
    utf8From (some ⟨1, low, high, x⟩) (UInt8.ofNat (n % 64 + 128) :: bs) =
      some (Char.ofNat (x * 64 + n % 64)) :: utf8From none bs := by
  have hbyte : (UInt8.ofNat (n % 64 + 128)).toNat = n % 64 + 128 :=
    UInt8.toNat_ofNat_of_lt' (show _ < 256 by omega)
  rw [utf8From]
  simp only [hbyte]
  rw [if_pos ⟨hlow, hhigh⟩, if_pos le_rfl, Nat.add_sub_cancel]

/-- The first byte of a longer sequence tells the length, which bytes may come next, and the first
bits. -/
theorem utf8From_begun {n : Nat} (hn : n < 256) {owed : Owed} (h : lead n = .inr owed)
    (bs : List UInt8) :
    utf8From none (UInt8.ofNat n :: bs) = utf8From (some owed) bs := by
  have hbyte : (UInt8.ofNat n).toNat = n := UInt8.toNat_ofNat_of_lt' hn
  rw [utf8From]
  simp only [hbyte, h]

theorem lead_two {x : Nat} (hlow : 2 ≤ x) (hhigh : x < 32) :
    lead (x + 192) = .inr ⟨1, 0x80, 0xBF, x⟩ := by
  unfold lead
  rw [if_neg (by omega), if_pos (by omega), Nat.add_sub_cancel]

/-- No sequence of three bytes is longer than it need be, and none is a surrogate. -/
theorem lead_three {x : Nat} (hx : x < 16) :
    lead (x + 224) = .inr ⟨2, if x = 0 then 0xA0 else 0x80, if x = 13 then 0x9F else 0xBF, x⟩ := by
  unfold lead
  interval_cases x <;> rfl

/-- No sequence of four bytes is longer than it need be, and none is above the last plane. -/
theorem lead_four {x : Nat} (hx : x < 5) :
    lead (x + 240) = .inr ⟨3, if x = 0 then 0x90 else 0x80, if x = 4 then 0x8F else 0xBF, x⟩ := by
  unfold lead
  interval_cases x <;> rfl

/-- A character is read from its bytes. -/
theorem utf8From_utf8EncodeChar (c : Char) (bs : List UInt8) :
    utf8From none (String.utf8EncodeChar c ++ bs) = some c :: utf8From none bs := by
  have hvalid := toNat_valid c
  have hchar : ∀ {n : Nat}, n = c.toNat → Char.ofNat n = c := by
    rintro n rfl
    exact Char.ofNat_toNat c
  have hval : c.val.toNat = c.toNat := rfl
  unfold String.utf8EncodeChar
  simp only [hval]
  generalize c.toNat = n at hvalid hchar
  split_ifs with h1 h2 h3
  · have hlead : lead n = .inl (some (Char.ofNat n)) := by
      unfold lead
      rw [if_pos (by omega)]
    have hbyte : (UInt8.ofNat n).toNat = n := UInt8.toNat_ofNat_of_lt' (show n < 256 by omega)
    rw [List.singleton_append, utf8From]
    simp only [hbyte, hlead]
    rw [hchar rfl]
  · rw [List.cons_append, List.singleton_append,
      utf8From_begun (by omega) (lead_two (by omega) (by omega)),
      utf8From_completed (by omega) (by omega), hchar (by omega)]
  · rw [List.cons_append, List.cons_append, List.singleton_append,
      utf8From_begun (by omega) (lead_three (by omega)),
      utf8From_continued (by split_ifs <;> omega) (by split_ifs <;> omega),
      utf8From_completed (by omega) (by omega), hchar (by omega)]
  · rw [List.cons_append, List.cons_append, List.cons_append, List.singleton_append,
      utf8From_begun (by omega) (lead_four (by omega)),
      utf8From_continued (by split_ifs <;> omega) (by split_ifs <;> omega),
      utf8From_continued (by omega) (by omega),
      utf8From_completed (by omega) (by omega), hchar (by omega)]

theorem utf8_flatMap (cs : List Char) : utf8 (cs.flatMap String.utf8EncodeChar) = cs.map some := by
  unfold utf8
  induction cs with
  | nil => rfl
  | cons c cs ih => rw [List.flatMap_cons, utf8From_utf8EncodeChar, ih, List.map_cons]

theorem lossy_utf8_flatMap (cs : List Char) :
    lossy (utf8 (cs.flatMap String.utf8EncodeChar)) = cs := by
  rw [utf8_flatMap, lossy, List.map_map]
  exact List.map_id cs

end CriteriaSearch.Text.Encoding
