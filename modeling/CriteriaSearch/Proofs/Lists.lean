import CriteriaSearch.Named
import Mathlib.Data.List.Nodup
import Mathlib.Data.List.Perm.Basic

/-!
# Lists by position, by name and with failures

Facts on reading a list at all its positions, on looking up names that are distinct, on folds in
which the last step wins, and on maps that may fail.
-/

namespace CriteriaSearch

variable {α β ε : Type}

theorem filterMap_range_getElem? (xs : List α) :
    (List.range xs.length).filterMap (fun i => xs[i]?) = xs := by
  induction xs with
  | nil => rfl
  | cons x xs ih =>
      rw [List.length_cons, List.range_succ_eq_map, List.filterMap_cons]
      simpa [List.filterMap_map, Function.comp_def] using ih

theorem getElem?_filterMap_of_isSome {f : α → Option β} {xs : List α}
    (h : ∀ a ∈ xs, (f a).isSome = true) (j : Nat) : (xs.filterMap f)[j]? = xs[j]?.bind f := by
  induction xs generalizing j with
  | nil => rfl
  | cons x xs ih =>
      obtain ⟨hx, hxs⟩ := List.forall_mem_cons.mp h
      obtain ⟨b, hb⟩ := Option.isSome_iff_exists.mp hx
      rw [List.filterMap_cons_some hb]
      cases j with
      | zero => exact hb.symm
      | succ j => exact ih hxs j

/-- The position in a list of what stands at a position among the items that meet a condition.
Behind the end the positions go on. -/
def keptAt (p : α → Bool) : List α → Nat → Nat
  | [], j => j
  | x :: xs, 0 => if p x then 0 else keptAt p xs 0 + 1
  | x :: xs, j + 1 => if p x then keptAt p xs j + 1 else keptAt p xs (j + 1) + 1

theorem getElem?_filter_eq (p : α → Bool) (xs : List α) (j : Nat) :
    (xs.filter p)[j]? = xs[keptAt p xs j]? := by
  induction xs generalizing j with
  | nil => rfl
  | cons x xs ih =>
      by_cases hx : p x = true
      · rw [List.filter_cons_of_pos hx]
        cases j with
        | zero => simp [keptAt, hx]
        | succ j => simp [keptAt, hx, ih j]
      · rw [List.filter_cons_of_neg hx, ih j]
        cases j with
        | zero => simp [keptAt, hx]
        | succ j => simp [keptAt, hx]

theorem keptAt_injective (p : α → Bool) (xs : List α) : Function.Injective (keptAt p xs) := by
  induction xs with
  | nil => exact fun _ _ h => h
  | cons x xs ih =>
      intro i j hij
      by_cases hx : p x = true
      · cases i with
        | zero =>
            cases j with
            | zero => rfl
            | succ j => simp [keptAt, hx] at hij
        | succ i =>
            cases j with
            | zero => simp [keptAt, hx] at hij
            | succ j =>
                simp only [keptAt, hx, if_true, Nat.add_right_cancel_iff] at hij
                exact congrArg Nat.succ (ih hij)
      · have hstep : ∀ k, keptAt p (x :: xs) k = keptAt p xs k + 1 := by
          intro k
          cases k <;> simp [keptAt, hx]
        rw [hstep, hstep] at hij
        exact ih (Nat.succ.inj hij)

/-- The positions of the items that meet a condition. -/
theorem filter_range_eq (p : α → Bool) (xs : List α) :
    (List.range xs.length).filter (fun i => xs[i]?.any p) =
      (List.range (xs.filter p).length).map (keptAt p xs) := by
  induction xs with
  | nil => rfl
  | cons x xs ih =>
      have hrest : (List.map Nat.succ (List.range xs.length)).filter
          (fun i => (x :: xs)[i]?.any p) =
            ((List.range (xs.filter p).length).map (keptAt p xs)).map Nat.succ := by
        rw [List.filter_map, ← ih]
        rfl
      rw [List.length_cons, List.range_succ_eq_map]
      by_cases hx : p x = true
      · rw [List.filter_cons_of_pos hx, List.filter_cons_of_pos (by simpa using hx), hrest,
          List.length_cons, List.range_succ_eq_map, List.map_cons, List.map_map, List.map_map]
        simp [keptAt, hx, Function.comp_def]
      · rw [List.filter_cons_of_neg hx, List.filter_cons_of_neg (by simpa using hx), hrest,
          List.map_map]
        refine List.map_congr_left fun j _ => ?_
        cases j <;> simp [keptAt, hx]

theorem countP_filter_of_imp {p q : α → Bool} {xs : List α}
    (h : ∀ a ∈ xs, q a = true → p a = true) : (xs.filter p).countP q = xs.countP q := by
  rw [List.countP_filter]
  refine List.countP_congr fun a ha => ?_
  rw [Bool.and_eq_true]
  exact ⟨And.left, fun hq => ⟨hq, h a ha hq⟩⟩

/-! ### Pairs at each position -/

theorem forall₂_imp_of_mem {R S : α → β → Prop} {xs : List α} {ys : List β}
    (h : List.Forall₂ R xs ys) (himp : ∀ x ∈ xs, ∀ y ∈ ys, R x y → S x y) :
    List.Forall₂ S xs ys := by
  induction h with
  | nil => exact .nil
  | cons hxy _ ih =>
      refine .cons (himp _ List.mem_cons_self _ List.mem_cons_self hxy) (ih fun x hx y hy => ?_)
      exact himp x (List.mem_cons_of_mem _ hx) y (List.mem_cons_of_mem _ hy)

theorem exists_of_forall₂_right {R : α → β → Prop} {xs : List α} {ys : List β}
    (h : List.Forall₂ R xs ys) {y : β} (hy : y ∈ ys) : ∃ x ∈ xs, R x y := by
  induction h with
  | nil => cases hy
  | cons hxy _ ih =>
      rcases List.mem_cons.mp hy with rfl | hy
      · exact ⟨_, List.mem_cons_self, hxy⟩
      · obtain ⟨x, hx, hR⟩ := ih hy
        exact ⟨x, List.mem_cons_of_mem _ hx, hR⟩

theorem exists_forall₂_of_forall {R : α → β → Prop} {xs : List α}
    (h : ∀ x ∈ xs, ∃ y, R x y) : ∃ ys, List.Forall₂ R xs ys := by
  induction xs with
  | nil => exact ⟨[], .nil⟩
  | cons x xs ih =>
      obtain ⟨⟨y, hy⟩, hrest⟩ := List.forall_mem_cons.mp h
      obtain ⟨ys, hys⟩ := ih hrest
      exact ⟨y :: ys, .cons hy hys⟩

/-! ### Duplicates -/

/-- Erasing duplicates keeps the first item and goes on without its duplicates. -/
theorem eraseDupsBy_induction {r : α → α → Bool} {motive : List α → List α → Prop}
    (nil : motive [] [])
    (cons : ∀ x xs rest, motive (xs.filter fun y => r y x = false) rest →
      motive (x :: xs) (x :: rest)) (xs : List α) : motive xs (xs.eraseDupsBy r) := by
  induction hlength : xs.length using Nat.strongRecOn generalizing xs with
  | ind n ih =>
      cases xs with
      | nil => exact nil
      | cons x xs =>
          have hle := List.length_filter_le (fun y => r y x = false) xs
          have hlt : (xs.filter fun y => r y x = false).length < n := by
            rw [← hlength, List.length_cons]
            omega
          rw [List.eraseDupsBy_cons]
          exact cons x xs _ (ih _ hlt _ rfl)

theorem eraseDupsBy_sublist (r : α → α → Bool) (xs : List α) : (xs.eraseDupsBy r).Sublist xs := by
  induction xs using eraseDupsBy_induction (r := r) with
  | nil => exact .slnil
  | cons x xs rest ih => exact (ih.trans List.filter_sublist).cons_cons x

theorem exists_mem_eraseDupsBy {r : α → α → Bool} (hrefl : ∀ a, r a a = true) {xs : List α} {a : α}
    (ha : a ∈ xs) : ∃ b ∈ xs.eraseDupsBy r, r a b = true := by
  revert ha
  induction xs using eraseDupsBy_induction (r := r) with
  | nil => simp
  | cons x xs rest ih =>
      intro ha
      by_cases hx : r a x = true
      · exact ⟨x, List.mem_cons_self, hx⟩
      · have ha' : a ∈ xs.filter fun y => r y x = false := by
          rcases List.mem_cons.mp ha with rfl | ha
          · exact absurd (hrefl a) hx
          · exact List.mem_filter.mpr ⟨ha, by simpa using hx⟩
        obtain ⟨b, hb, hab⟩ := ih ha'
        exact ⟨b, List.mem_cons_of_mem x hb, hab⟩

section Keys

variable {β κ : Type} [BEq κ] [LawfulBEq κ]

omit [LawfulBEq κ] in
/-- Of the items with one key the first is left, whatever they are turned into. -/
theorem map_eraseDupsBy {k : α → κ} {k' : β → κ} {g : α → β} {xs : List α}
    (hkey : ∀ a ∈ xs, k' (g a) = k a) : (xs.eraseDupsBy fun a b => k a == k b).map g =
      (xs.map g).eraseDupsBy fun a b => k' a == k' b := by
  revert hkey
  induction xs using eraseDupsBy_induction (r := fun a b => k a == k b) with
  | nil => exact fun _ => rfl
  | cons x xs rest ih =>
      intro hkey
      obtain ⟨hx, hxs⟩ := List.forall_mem_cons.mp hkey
      rw [List.map_cons, ih fun a ha => hxs a (List.mem_of_mem_filter ha), List.map_cons,
        List.eraseDupsBy_cons, List.filter_map]
      refine congrArg (fun ys => g x :: (List.map g ys).eraseDupsBy _) ?_
      refine List.filter_congr fun a ha => ?_
      rw [Function.comp_apply, hxs a ha, hx]

theorem filter_eraseDupsBy {k : α → κ} {p : α → Bool} (hp : ∀ a b, k a = k b → p a = p b)
    (xs : List α) : (xs.eraseDupsBy fun a b => k a == k b).filter p =
      (xs.filter p).eraseDupsBy fun a b => k a == k b := by
  induction xs using eraseDupsBy_induction (r := fun a b => k a == k b) with
  | nil => rfl
  | cons x xs rest ih =>
      by_cases hx : p x = true
      · rw [List.filter_cons_of_pos hx, ih, List.filter_cons_of_pos hx, List.eraseDupsBy_cons,
          List.filter_filter, List.filter_filter]
        simp only [Bool.and_comm]
      · rw [List.filter_cons_of_neg hx, ih, List.filter_cons_of_neg hx, List.filter_filter]
        refine congrArg (List.eraseDupsBy _) (List.filter_congr fun a _ => ?_)
        by_cases ha : k a = k x
        · rw [hp a x ha]
          simp [hx]
        · simp [ha]

omit [LawfulBEq κ] in
theorem eraseDupsBy_eraseDupsBy (k : α → κ) (xs : List α) :
    (xs.eraseDupsBy fun a b => k a == k b).eraseDupsBy (fun a b => k a == k b) =
      xs.eraseDupsBy fun a b => k a == k b := by
  have hmotive := eraseDupsBy_induction (r := fun a b => k a == k b)
    (motive := fun xs ys => ys.eraseDupsBy (fun a b => k a == k b) = ys ∧ ys ⊆ xs)
    ⟨rfl, List.Subset.refl _⟩ ?_ xs
  · exact hmotive.1
  · rintro x xs rest ⟨hrest, hsubset⟩
    have hfilter : rest.filter (fun a => (k a == k x) = false) = rest :=
      List.filter_eq_self.mpr fun a ha => (List.mem_filter.mp (hsubset ha)).2
    refine ⟨by rw [List.eraseDupsBy_cons, hfilter, hrest], ?_⟩
    exact List.cons_subset_cons x fun a ha => List.mem_of_mem_filter (hsubset ha)

/-- Duplicates that are erased at the end anyway may be erased before. -/
theorem eraseDupsBy_append_eraseDupsBy (k : α → κ) (xs ys : List α) :
    (xs ++ ys.eraseDupsBy fun a b => k a == k b).eraseDupsBy (fun a b => k a == k b) =
      (xs ++ ys).eraseDupsBy fun a b => k a == k b := by
  induction xs using eraseDupsBy_induction (r := fun a b => k a == k b) generalizing ys with
  | nil => exact eraseDupsBy_eraseDupsBy k ys
  | cons x xs rest ih =>
      have hkey : ∀ a b, k a = k b →
          decide ((k a == k x) = false) = decide ((k b == k x) = false) :=
        fun a b hab => by rw [hab]
      rw [List.cons_append, List.cons_append, List.eraseDupsBy_cons, List.eraseDupsBy_cons,
        List.filter_append, List.filter_append, filter_eraseDupsBy hkey, ih]

end Keys

theorem nodup_eraseDups [BEq α] [LawfulBEq α] (xs : List α) : xs.eraseDups.Nodup := by
  have hmotive := eraseDupsBy_induction (r := fun a b : α => a == b)
    (motive := fun xs ys => ys.Nodup ∧ ys ⊆ xs) ⟨.nil, List.Subset.refl _⟩ ?_ xs
  · exact hmotive.1
  · rintro x xs rest ⟨hnodup, hsubset⟩
    refine ⟨List.nodup_cons.mpr ⟨fun hx => ?_, hnodup⟩, ?_⟩
    · simpa using hsubset hx
    · exact List.cons_subset_cons x fun y hy => List.mem_of_mem_filter (hsubset hy)

theorem eraseDups_concat [BEq α] [LawfulBEq α] (xs : List α) (a : α) :
    (xs ++ [a]).eraseDups =
      if xs.eraseDups.contains a then xs.eraseDups else xs.eraseDups ++ [a] := by
  have hcontains : xs.eraseDups.contains a = xs.contains a := by
    rw [Bool.eq_iff_iff, List.contains_iff_mem, List.contains_iff_mem, List.mem_eraseDups]
  rw [List.eraseDups_append, hcontains]
  by_cases h : xs.contains a = true
  · have hnil : [a].removeAll xs = [] := by
      simpa [List.removeAll] using h
    rw [if_pos h, hnil, List.eraseDups_nil, List.append_nil]
  · have hself : [a].removeAll xs = [a] := by
      simpa [List.removeAll] using h
    rw [if_neg h, hself, List.eraseDups_cons]
    rfl

/-- The items of a list that meet a condition, each of them once, in the order in which they first
appear. -/
structure FirstsOf [DecidableEq α] (xs : List α) (p : α → Prop) (ys : List α) : Prop where
  mem_iff : ∀ a, a ∈ ys ↔ a ∈ xs ∧ p a
  ordered : ys.Pairwise fun a b => xs.idxOf a < xs.idxOf b

theorem firstsOf_eraseDups [DecidableEq α] (xs : List α) {p : α → Bool} {q : α → Prop}
    (hpq : ∀ a, p a = true ↔ q a) : FirstsOf xs q (xs.filter p).eraseDups := by
  refine ⟨fun a => by simp [List.mem_eraseDups, hpq], ?_⟩
  clear hpq
  induction xs generalizing p with
  | nil => simp
  | cons x xs ih =>
      -- Behind the first item nothing equals it, so its positions move up by one.
      have hshift : ∀ {ys : List α}, (∀ a ∈ ys, a ≠ x) →
          (ys.Pairwise fun a b => xs.idxOf a < xs.idxOf b) →
          ys.Pairwise fun a b => (x :: xs).idxOf a < (x :: xs).idxOf b := by
        intro ys hne hpairwise
        refine hpairwise.imp_of_mem fun {a b} ha hb hlt => ?_
        rw [List.idxOf_cons_ne xs (Ne.symm (hne a ha)), List.idxOf_cons_ne xs (Ne.symm (hne b hb))]
        exact Nat.succ_lt_succ hlt
      by_cases hx : p x = true
      · rw [List.filter_cons_of_pos hx, List.eraseDups_cons, List.filter_filter]
        have hne : ∀ a ∈ (xs.filter fun b => !b == x && p b).eraseDups, a ≠ x := by
          intro a ha
          have hmem := List.mem_filter.mp (List.mem_eraseDups.mp ha)
          simpa using (Bool.and_eq_true_iff.mp hmem.2).1
        refine List.pairwise_cons.mpr ⟨fun a ha => ?_, hshift hne ih⟩
        rw [List.idxOf_cons_self, List.idxOf_cons_ne xs (Ne.symm (hne a ha))]
        exact Nat.succ_pos _
      · rw [List.filter_cons_of_neg hx]
        refine hshift (fun a ha heq => hx ?_) ih
        exact heq ▸ (List.mem_filter.mp (List.mem_eraseDups.mp ha)).2

/-! ### Lookups -/

theorem lookup_eq_some_of_mem {κ : Type} [BEq κ] [LawfulBEq κ] {xs : List (κ × β)} {k : κ} {b : β}
    (hnodup : (xs.map Prod.fst).Nodup) (hmem : (k, b) ∈ xs) : xs.lookup k = some b := by
  induction xs with
  | nil => simp at hmem
  | cons x xs ih =>
      rw [List.map_cons, List.nodup_cons] at hnodup
      rcases List.mem_cons.mp hmem with rfl | hmem
      · exact List.lookup_cons_self
      · have hne : k ≠ x.1 := fun heq =>
          hnodup.1 (List.mem_map.mpr ⟨(k, b), hmem, heq⟩)
        rw [List.lookup_cons, beq_false_of_ne hne]
        exact ih hnodup.2 hmem

theorem mem_of_lookup_eq_some {κ : Type} [BEq κ] [LawfulBEq κ] {xs : List (κ × β)} {k : κ} {b : β}
    (h : xs.lookup k = some b) : (k, b) ∈ xs := by
  obtain ⟨front, rest, rfl, -⟩ := List.lookup_eq_some_iff.mp h
  simp

theorem Named.get?_set_self {α : Type} (xs : Named α) (name : String) (a : α) :
    (xs.set name a).get? name = some a := by
  induction xs with
  | nil => simp [Named.set, Named.get?]
  | cons x xs ih =>
      obtain ⟨n, b⟩ := x
      by_cases hn : n = name
      · simp [Named.set, Named.get?, hn]
      · have hbeq : (name == n) = false := beq_false_of_ne (Ne.symm hn)
        simpa [Named.set, hn, Named.get?, List.lookup_cons, hbeq] using ih

theorem Named.get?_set_of_ne {α : Type} (xs : Named α) {name name' : String} (a : α)
    (h : name' ≠ name) : (xs.set name a).get? name' = xs.get? name' := by
  induction xs with
  | nil => simp [Named.set, Named.get?, List.lookup_cons, beq_false_of_ne h]
  | cons x xs ih =>
      obtain ⟨n, b⟩ := x
      by_cases hn : n = name
      · subst hn
        simp [Named.set, Named.get?, List.lookup_cons, beq_false_of_ne h]
      · cases hbeq : name' == n with
        | true => simp [Named.set, hn, Named.get?, List.lookup_cons, hbeq]
        | false => simpa [Named.set, hn, Named.get?, List.lookup_cons, hbeq] using ih

theorem Named.set_of_not_mem {α : Type} {xs : Named α} {name : String} (a : α)
    (h : name ∉ xs.map Prod.fst) : xs.set name a = xs ++ [(name, a)] := by
  induction xs with
  | nil => rfl
  | cons x xs ih =>
      have hne : x.1 ≠ name := fun heq => h (heq ▸ List.mem_cons_self)
      have hrest := ih fun hmem => h (List.mem_cons_of_mem x.1 hmem)
      rw [Named.set, if_neg hne, hrest, List.cons_append]

theorem Named.names_set {α : Type} (xs : Named α) (name : String) (a : α) :
    (xs.set name a).map Prod.fst =
      if name ∈ xs.map Prod.fst then xs.map Prod.fst else xs.map Prod.fst ++ [name] := by
  induction xs with
  | nil => rfl
  | cons x xs ih =>
      obtain ⟨n, b⟩ := x
      by_cases hn : n = name
      · simp [Named.set, hn]
      · rw [Named.set, if_neg hn, List.map_cons, List.map_cons, ih]
        simp only [List.mem_cons, Ne.symm hn, false_or]
        split_ifs with hmem
        · rfl
        · rfl

/-! ### Folds -/

/-- What every step of a fold may replace is at the end what the last step that did so gave. -/
theorem foldl_replaced {γ : Type} {f : β → α → β} {part : β → Option γ} {given : α → Option γ}
    {xs : List α} (hstep : ∀ x ∈ xs, ∀ b, part (f b x) = (given x).or (part b)) (b : β) :
    part (xs.foldl f b) = (xs.filterMap given).getLast?.or (part b) := by
  induction xs generalizing b with
  | nil => rfl
  | cons x xs ih =>
      obtain ⟨hx, hrest⟩ := List.forall_mem_cons.mp hstep
      rw [List.foldl_cons, ih hrest, hx, List.filterMap_cons]
      cases given x with
      | none => rfl
      | some a => simp [List.getLast?_cons]

/-! ### Maps that may fail -/

theorem map_eq_ok {x : Except ε α} {f : α → β} {b : β} (h : x.map f = .ok b) :
    ∃ a, x = .ok a ∧ f a = b := by
  cases x with
  | error e => cases h
  | ok a => exact ⟨a, rfl, Except.ok.inj h⟩

theorem bind_eq_ok {x : Except ε α} {f : α → Except ε β} {b : β} (h : x >>= f = .ok b) :
    ∃ a, x = .ok a ∧ f a = .ok b := by
  cases x with
  | error e => cases h
  | ok a => exact ⟨a, rfl, h⟩

theorem mapM_cons_eq_ok_iff {f : α → Except ε β} {x : α} {xs : List α} {ys : List β} :
    (x :: xs).mapM f = .ok ys ↔ ∃ z zs, f x = .ok z ∧ xs.mapM f = .ok zs ∧ ys = z :: zs := by
  rw [List.mapM_cons]
  cases f x with
  | error e => simp [bind, Except.bind]
  | ok z => cases xs.mapM f <;> simp [bind, Except.bind, pure, Except.pure, eq_comm]

/-- A map that may fail succeeds exactly if it does so on every item. -/
theorem mapM_eq_ok_iff {f : α → Except ε β} {xs : List α} {ys : List β} :
    xs.mapM f = .ok ys ↔ xs.map f = ys.map .ok := by
  induction xs generalizing ys with
  | nil => cases ys <;> simp [pure, Except.pure]
  | cons x xs ih =>
      rw [mapM_cons_eq_ok_iff]
      constructor
      · rintro ⟨z, zs, hx, hxs, rfl⟩
        rw [List.map_cons, List.map_cons, hx, ih.mp hxs]
      · intro h
        cases ys with
        | nil => simp at h
        | cons z zs =>
            obtain ⟨hx, hxs⟩ := List.cons.inj h
            exact ⟨z, zs, hx, ih.mpr hxs, rfl⟩

/-- What the results of a map that may fail show can be read off its items. -/
theorem filterMap_of_mapM {γ : Type} {f : α → Except ε β} {g : β → Option γ} {h : α → Option γ}
    {xs : List α} (hfg : ∀ a ∈ xs, ∀ b, f a = .ok b → g b = h a) {ys : List β}
    (hmap : xs.mapM f = .ok ys) : ys.filterMap g = xs.filterMap h := by
  induction xs generalizing ys with
  | nil =>
      obtain rfl := Except.ok.inj hmap
      rfl
  | cons x xs ih =>
      obtain ⟨z, zs, hx, hxs, rfl⟩ := mapM_cons_eq_ok_iff.mp hmap
      obtain ⟨hhead, hrest⟩ := List.forall_mem_cons.mp hfg
      rw [List.filterMap_cons, List.filterMap_cons, hhead z hx, ih hrest hxs]

theorem exists_ok_of_mapM {f : α → Except ε β} {xs : List α} {ys : List β}
    (hmap : xs.mapM f = .ok ys) {x : α} (hx : x ∈ xs) : ∃ y, f x = .ok y := by
  have hmem : f x ∈ ys.map Except.ok := by
    rw [← mapM_eq_ok_iff.mp hmap]
    exact List.mem_map_of_mem hx
  obtain ⟨y, -, hy⟩ := List.mem_map.mp hmem
  exact ⟨y, hy.symm⟩

theorem exists_of_mem_of_mapM {f : α → Except ε β} {xs : List α} {ys : List β}
    (hmap : xs.mapM f = .ok ys) {y : β} (hy : y ∈ ys) : ∃ x ∈ xs, f x = .ok y := by
  have hmem : Except.ok y ∈ xs.map f := by
    rw [mapM_eq_ok_iff.mp hmap]
    exact List.mem_map_of_mem hy
  exact List.mem_map.mp hmem

theorem mapM_append_eq_ok {f : α → Except ε β} {xs xs' : List α} {ys ys' : List β}
    (h : xs.mapM f = .ok ys) (h' : xs'.mapM f = .ok ys') :
    (xs ++ xs').mapM f = .ok (ys ++ ys') := by
  rw [mapM_eq_ok_iff] at h h' ⊢
  rw [List.map_append, List.map_append, h, h']

/-- A map that may fail does so at the first item that fails. -/
theorem mapM_eq_error_of_first {f : α → Except ε β} {pre post : List α} {x : α} {e : ε}
    (hpre : ∀ y ∈ pre, ∃ z, f y = .ok z) (hx : f x = .error e) :
    (pre ++ x :: post).mapM f = .error e := by
  induction pre with
  | nil => simp [List.mapM_cons, hx, bind, Except.bind]
  | cons y pre ih =>
      obtain ⟨z, hz⟩ := hpre y List.mem_cons_self
      have hrest := ih fun w hw => hpre w (List.mem_cons_of_mem y hw)
      rw [List.cons_append, List.mapM_cons, hz, hrest]
      rfl

theorem mapM_eq_error_iff {f : α → Except ε β} {xs : List α} {e : ε} :
    xs.mapM f = .error e ↔ ∃ pre x post, xs = pre ++ x :: post ∧
      (∀ y ∈ pre, ∃ z, f y = .ok z) ∧ f x = .error e := by
  constructor
  · intro h
    induction xs with
    | nil => cases h
    | cons x xs ih =>
        cases hx : f x with
        | error e' =>
            rw [List.mapM_cons, hx] at h
            obtain rfl := Except.error.inj h
            exact ⟨[], x, xs, rfl, List.forall_mem_nil _, hx⟩
        | ok z =>
            have hrest : xs.mapM f = .error e := by
              rw [List.mapM_cons, hx] at h
              cases hxs : xs.mapM f with
              | error e' =>
                  rw [hxs] at h
                  exact congrArg Except.error (Except.error.inj h)
              | ok zs =>
                  rw [hxs] at h
                  cases h
            obtain ⟨pre, y, post, rfl, hpre, hy⟩ := ih hrest
            exact ⟨x :: pre, y, post, rfl, List.forall_mem_cons.mpr ⟨⟨z, hx⟩, hpre⟩, hy⟩
  · rintro ⟨pre, x, post, rfl, hpre, hx⟩
    exact mapM_eq_error_of_first hpre hx

/-- A map that fails does so with the failure of one of its items. -/
theorem exists_of_mapM_eq_error {f : α → Except ε β} {xs : List α} {e : ε}
    (h : xs.mapM f = .error e) : ∃ x ∈ xs, f x = .error e := by
  obtain ⟨pre, x, post, rfl, -, hx⟩ := mapM_eq_error_iff.mp h
  exact ⟨x, List.mem_append_right pre List.mem_cons_self, hx⟩

theorem mapM_fails_iff {f : α → Except ε β} {xs : List α} :
    (∃ e, xs.mapM f = .error e) ↔ ∃ x ∈ xs, ∃ e, f x = .error e := by
  constructor
  · rintro ⟨e, he⟩
    obtain ⟨x, hx, hfx⟩ := exists_of_mapM_eq_error he
    exact ⟨x, hx, e, hfx⟩
  · rintro ⟨x, hx, e, he⟩
    cases hmap : xs.mapM f with
    | error e' => exact ⟨e', rfl⟩
    | ok ys =>
        obtain ⟨y, hy⟩ := exists_ok_of_mapM hmap hx
        rw [he] at hy
        cases hy

/-- A map that may fail is decided by what it makes of each item. -/
theorem mapM_congr_map {γ : Type} {f : α → Except ε β} {g : γ → Except ε β} {xs : List α}
    {ys : List γ} (h : xs.map f = ys.map g) : xs.mapM f = ys.mapM g := by
  calc xs.mapM f = (xs.map f).mapM id := by rw [List.mapM_map, Function.id_comp]
    _ = (ys.map g).mapM id := by rw [h]
    _ = ys.mapM g := by rw [List.mapM_map, Function.id_comp]

end CriteriaSearch
