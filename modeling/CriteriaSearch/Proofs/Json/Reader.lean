import Mathlib.Tactic.SplitIfs
import CriteriaSearch.Json.Reader
import CriteriaSearch.Proofs.Lists
import CriteriaSearch.Proofs.Text.Encoding
import CriteriaSearch.Proofs.Value.Text

/-!
# What is read from JSON

No numeral that is read is too long, so every value that is read can be written. However much room
there is for lists inside each other, a document can have more of them.
-/

namespace CriteriaSearch.Json

open Text

theorem isWritable_of_number {negative : Bool} {cs rest : List Char} {v : Value}
    (h : number negative cs = .ok (v, rest)) : v.isWritable = true := by
  unfold number at h
  dsimp only at h
  split_ifs at h with hempty hwhole hshort
  · obtain ⟨rfl, -⟩ := Prod.mk.inj (Except.ok.inj h)
    rw [Value.isWritable_int_iff, Numeral.natAbs_signed, Numeral.width_le_iff]
    exact Nat.lt_of_lt_of_le (Numeral.positional_digits_lt _)
      (Nat.pow_le_pow_right (by decide) hshort)
  · obtain ⟨rfl, -⟩ := Prod.mk.inj (Except.ok.inj h)
    rfl

theorem isWritable_of_constant? {cs rest : List Char} {v : Value}
    (h : constant? cs = some (v, rest)) : v.isWritable = true := by
  obtain ⟨⟨word, w⟩, hmem, hword⟩ := List.exists_of_findSome?_eq_some h
  obtain ⟨_, -, hsame⟩ := Option.map_eq_some_iff.mp hword
  obtain ⟨rfl, -⟩ := Prod.mk.inj hsame
  have hall : ∀ p ∈ [("null", Value.null), ("true", .bool true), ("false", .bool false),
      ("NaN", .float .nan), ("Infinity", .float (.infinity false)),
      ("-Infinity", .float (.infinity true))], p.2.isWritable = true := by
    decide
  exact hall _ hmem

theorem mem_set {row : Row} {name : String} {v : Value} {p : String × Value}
    (h : p ∈ Named.set row name v) : p ∈ row ∨ p.2 = v := by
  induction row with
  | nil =>
      obtain rfl := List.mem_singleton.mp h
      exact .inr rfl
  | cons q row ih =>
      obtain ⟨n, w⟩ := q
      unfold Named.set at h
      split_ifs at h with hname
      · rcases List.mem_cons.mp h with rfl | hmem
        · exact .inr rfl
        · exact .inl (List.mem_cons_of_mem _ hmem)
      · rcases List.mem_cons.mp h with rfl | hmem
        · exact .inl List.mem_cons_self
        · exact (ih hmem).imp_left (List.mem_cons_of_mem _)

/-- What is read with some fuel can be written, if what was read before can be. -/
structure Reads (fuel : Nat) : Prop where
  value : ∀ {room cs v rest}, value fuel room cs = .ok (v, rest) → v.isWritable = true
  items : ∀ {seen room cs vs rest}, items seen fuel room cs = .ok (vs, rest) →
    (∀ v ∈ seen, v.isWritable = true) → ∀ v ∈ vs, v.isWritable = true
  fields : ∀ {row room cs row' rest}, fields row fuel room cs = .ok (row', rest) →
    (∀ p ∈ row, p.2.isWritable = true) → ∀ p ∈ row', p.2.isWritable = true

theorem isWritable_of_value {fuel room : Nat} (hreads : Reads fuel) {cs rest : List Char}
    {v : Value} (h : value (fuel + 1) room cs = .ok (v, rest)) : v.isWritable = true := by
  unfold value at h
  split at h
  · obtain ⟨⟨s, rest'⟩, -, hs⟩ := bind_eq_ok h
    obtain ⟨rfl, -⟩ := Prod.mk.inj (Except.ok.inj hs)
    rfl
  · split at h
    · cases h
    · split at h
      · obtain ⟨rfl, -⟩ := Prod.mk.inj (Except.ok.inj h)
        rfl
      · obtain ⟨⟨vs, rest'⟩, hvs, hlist⟩ := bind_eq_ok h
        obtain ⟨rfl, -⟩ := Prod.mk.inj (Except.ok.inj hlist)
        exact Value.areWritable_iff.mpr (hreads.items hvs (List.forall_mem_nil _))
  · split at h
    · cases h
    · split at h
      · obtain ⟨rfl, -⟩ := Prod.mk.inj (Except.ok.inj h)
        rfl
      · obtain ⟨⟨row, rest'⟩, hrow, hrecord⟩ := bind_eq_ok h
        obtain ⟨rfl, -⟩ := Prod.mk.inj (Except.ok.inj hrecord)
        exact Value.areFieldsWritable_iff.mpr (hreads.fields hrow (List.forall_mem_nil _))
  · split at h
    · obtain rfl := Except.ok.inj h
      exact isWritable_of_constant? ‹_›
    · split at h
      · exact isWritable_of_number h
      · exact isWritable_of_number h

theorem isWritable_of_items {fuel room : Nat} (hreads : Reads fuel) {seen vs : List Value}
    {cs rest : List Char} (h : items seen (fuel + 1) room cs = .ok (vs, rest))
    (hseen : ∀ v ∈ seen, v.isWritable = true) : ∀ v ∈ vs, v.isWritable = true := by
  unfold items at h
  obtain ⟨⟨v, rest'⟩, hv, hmore⟩ := bind_eq_ok h
  have hall : ∀ w ∈ v :: seen, w.isWritable = true :=
    List.forall_mem_cons.mpr ⟨hreads.value hv, hseen⟩
  dsimp only at hmore
  split at hmore
  · exact hreads.items hmore hall
  · obtain ⟨rfl, -⟩ := Prod.mk.inj (Except.ok.inj hmore)
    exact fun w hw => hall w (List.mem_reverse.mp hw)
  · cases hmore

theorem isWritable_of_fields {fuel room : Nat} (hreads : Reads fuel) {row row' : Row}
    {cs rest : List Char} (h : fields row (fuel + 1) room cs = .ok (row', rest))
    (hrow : ∀ p ∈ row, p.2.isWritable = true) : ∀ p ∈ row', p.2.isWritable = true := by
  unfold fields at h
  split at h
  · obtain ⟨⟨name, rest'⟩, -, hname⟩ := bind_eq_ok h
    dsimp only at hname
    split at hname
    · obtain ⟨⟨v, rest''⟩, hv, hmore⟩ := bind_eq_ok hname
      have hall : ∀ p ∈ Named.set row name v, p.2.isWritable = true := by
        intro p hp
        rcases mem_set hp with hold | hnew
        · exact hrow p hold
        · rw [hnew]
          exact hreads.value hv
      dsimp only at hmore
      split at hmore
      · exact hreads.fields hmore hall
      · obtain ⟨rfl, -⟩ := Prod.mk.inj (Except.ok.inj hmore)
        exact hall
      · cases hmore
    · cases hname
  · cases h

theorem reads (fuel : Nat) : Reads fuel := by
  induction fuel with
  | zero =>
      constructor
      · intro room cs v rest h
        simp [value] at h
      · intro seen room cs vs rest h
        simp [items] at h
      · intro row room cs row' rest h
        simp [fields] at h
  | succ fuel ih => exact ⟨isWritable_of_value ih, isWritable_of_items ih, isWritable_of_fields ih⟩

/-- A value that is read can be written. -/
theorem isWritable_of_ofBytes {room : Nat} {bytes : List UInt8} {v : Value}
    (h : ofBytes room bytes = .ok v) : v.isWritable = true := by
  unfold ofBytes at h
  split at h
  · unfold document at h
    obtain ⟨⟨w, rest⟩, hw, hrest⟩ := bind_eq_ok h
    dsimp only at hrest
    split_ifs at hrest
    obtain rfl := Except.ok.inj hrest
    exact (reads _).value hw
  · cases h

/-! ### Room -/

theorem value_of_brackets {fuel room : Nat} (h : 2 * room < fuel) (cs : List Char) :
    value fuel room (List.replicate (room + 1) '[' ++ cs) = .error (.tooDeep .arrays) := by
  induction room generalizing fuel with
  | zero =>
      obtain ⟨fuel, rfl⟩ := Nat.exists_eq_succ_of_ne_zero (Nat.ne_of_gt h)
      rfl
  | succ room ih =>
      obtain ⟨fuel, rfl⟩ : ∃ f, fuel = f + 2 := ⟨fuel - 2, by omega⟩
      have hopen : List.replicate (room + 2) '[' ++ cs =
          '[' :: '[' :: (List.replicate room '[' ++ cs) := rfl
      have hinner : value fuel room ('[' :: (List.replicate room '[' ++ cs)) =
          .error (.tooDeep .arrays) := ih (by omega)
      have hitems : items [] (fuel + 1) room ('[' :: (List.replicate room '[' ++ cs)) =
          .error (.tooDeep .arrays) := by
        rw [items, hinner]
        rfl
      rw [hopen]
      exact (congrArg (· >>= _) hitems).trans rfl

/-- A document that opens more lists than there is room for is not read, whatever follows. -/
theorem document_of_brackets (room : Nat) (cs : List Char) :
    document room (List.replicate (room + 1) '[' ++ cs) = .error (.tooDeep .arrays) := by
  have hspace : skipSpace (List.replicate (room + 1) '[' ++ cs) =
      List.replicate (room + 1) '[' ++ cs := rfl
  have hfuel : 2 * room < 2 * (List.replicate (room + 1) '[' ++ cs).length + 1 := by
    rw [List.length_append, List.length_replicate]
    omega
  rw [document, hspace, value_of_brackets hfuel]
  rfl

/-- However much room there is, some bytes are not read for the want of it. -/
theorem exists_tooDeep (room : Nat) : ∃ bytes, ofBytes room bytes = .error (.tooDeep .arrays) := by
  let cs := List.replicate (room + 1) '[' ++ List.replicate 3 ']'
  have hdetect : Encoding.detect (cs.flatMap String.utf8EncodeChar) =
      Encoding.utf8 (cs.flatMap String.utf8EncodeChar) := by
    -- The encoding is told by four bytes.
    rcases room with _ | _ | _ | room <;> rfl
  have hstrict : Encoding.strict (cs.map some) = some cs := by
    rw [Encoding.strict, List.mapM_map]
    exact List.mapM_pure.trans (congrArg some (List.map_id _))
  refine ⟨cs.flatMap String.utf8EncodeChar, ?_⟩
  rw [ofBytes, hdetect, Encoding.utf8_flatMap, hstrict]
  exact document_of_brackets room _

end CriteriaSearch.Json
