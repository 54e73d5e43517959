import CriteriaSearch.Page.Table
import CriteriaSearch.Proofs.Page.Emission
import CriteriaSearch.Proofs.Page.Legible
import CriteriaSearch.Proofs.Page.Lineage

/-!
# Pages that can be put in order

A page is put into the order of the hierarchy if its keys can be read and it has no chain of rows,
each under the one before, for which there is no room. The order keeps all rows, it is found again
when the page is put in order once more, and without a cycle of parents every id of the page has a
run. A row without a key is refused, and so is a lineage with one row too many.
-/

namespace CriteriaSearch

open Reconcile

/-! ### Pages -/

/-- There is room for the levels of a page: chains of its rows, each of which stands under the one
before, are no longer. Rows are told apart by their positions. -/
def Shallow (room : Nat) (page : List Node) : Prop :=
  ∀ chain, Descends (idAt page) (parentAt page) (List.range page.length) chain →
    chain.length ≤ room

variable {page page' : List Node} {room : Nat}

theorem shallow_of_length_le (h : page.length ≤ room) : Shallow room page := by
  intro chain hchain
  have hle := hchain.length_le
  rw [List.length_range] at hle
  exact hle.trans h

/-- If parents on a page are roots, then there is room for its two levels. -/
theorem shallow_of_roots (hroom : 2 ≤ room)
    (h : ∀ p ∈ page, ∀ c ∈ page, c.parent ≠ "" → c.parent = p.id → p.parent = "") :
    Shallow room page := by
  intro chain hchain
  match chain, hchain with
  | [], _ => exact Nat.zero_le _
  | [_], _ => exact (Nat.le_succ 1).trans hroom
  | [_, _], _ => exact hroom
  | i :: j :: k :: rest, hchain =>
      exfalso
      have hmem : ∀ l ∈ i :: j :: k :: rest, ∃ n ∈ page, idAt page l = n.id ∧
          parentAt page l = n.parent := by
        intro l hl
        have hlt := List.mem_range.mp (hchain.subset hl)
        exact ⟨page[l], List.getElem_mem hlt, by simp [idAt, hlt], by simp [parentAt, hlt]⟩
      obtain ⟨p, hp, hpid, hpparent⟩ := hmem j (by simp)
      obtain ⟨c, hc, -, hcparent⟩ := hmem k (by simp)
      obtain ⟨⟨hne, -⟩, hunder⟩ := List.isChain_cons_cons.mp hchain.under
      obtain ⟨⟨hne', -, heq⟩, -⟩ := List.isChain_cons_cons.mp hunder
      rw [hcparent] at hne' heq
      rw [hpparent] at hne
      exact hne (h p hp c hc hne' (heq.trans hpid))

/-- Chains of a page are chains of another one on which its rows stand as well. -/
theorem Shallow.of_injective (h : Shallow room page) {f : Nat → Nat} (hf : Function.Injective f)
    (hrange : (List.range page'.length).map f ⊆ List.range page.length)
    (hid : idAt page' = idAt page ∘ f) (hparent : parentAt page' = parentAt page ∘ f) :
    Shallow room page' := by
  intro chain hchain
  rw [hid, hparent] at hchain
  have hmapped := hchain.map hf
  have hle := h _ ⟨hmapped.nodup, List.Subset.trans hmapped.subset hrange, hmapped.under⟩
  rwa [List.length_map] at hle

/-- A page with some rows left out has no longer chains. -/
theorem Shallow.of_sublist (h : Shallow room page)
    (hsub : (page'.map Node.key).Sublist (page.map Node.key)) : Shallow room page' := by
  obtain ⟨f, hf⟩ := List.sublist_iff_exists_orderEmbedding_getElem?_eq.mp hsub
  simp only [List.getElem?_map] at hf
  have hid : ∀ i, page'[i]?.map Node.id = page[f i]?.map Node.id := fun i => by
    simpa [Function.comp_def, Node.key] using congrArg (Option.map Prod.fst) (hf i)
  have hparent : ∀ i, page'[i]?.map Node.parent = page[f i]?.map Node.parent := fun i => by
    simpa [Function.comp_def, Node.key] using congrArg (Option.map Prod.snd) (hf i)
  refine h.of_injective f.injective (fun j hj => ?_) (funext fun i => ?_) (funext fun i => ?_)
  · obtain ⟨i, hi, rfl⟩ := List.mem_map.mp hj
    rw [List.mem_range] at hi ⊢
    by_contra hge
    have hnone := hid i
    rw [List.getElem?_eq_none (Nat.le_of_not_lt hge), List.getElem?_eq_getElem hi] at hnone
    cases hnone
  · rw [idAt, hid, Function.comp_apply, idAt]
  · rw [parentAt, hparent, Function.comp_apply, parentAt]

theorem reconcile?_eq (room : Nat) (page : List Node) : reconcile? room page =
    (order? (idAt page) (parentAt page) room (List.range page.length)).map
      (·.filterMap (page[·]?)) := by
  simp only [reconcile?, List.size_toArray, List.getElem?_toArray]
  rfl

theorem reconcile?_cases (room : Nat) (page : List Node) :
    reconcile? room page = some (reconcile page) ∨
      reconcile? room page = none ∧ ¬ Shallow room page := by
  rw [reconcile?_eq]
  rcases order?_cases (idAt page) (parentAt page) List.nodup_range room with
    horder | ⟨horder, chain, hchain, hlong⟩
  · rw [horder]
    exact .inl rfl
  · rw [horder]
    exact .inr ⟨rfl, fun hshallow => Nat.not_le_of_lt hlong (hshallow chain hchain)⟩

/-- If there was room for putting a page in order, then a page with the keys of the result is in
order, and there is room for it. -/
theorem reconcile?_eq_self (h : reconcile? room page = some (reconcile page))
    (hkeys : page'.map Node.key = (reconcile page).map Node.key) :
    reconcile? room page' = some page' := by
  have hnodes : ∀ i : Nat, page'[i]?.map Node.key = (reconcile page)[i]?.map Node.key := by
    intro i
    rw [← List.getElem?_map, hkeys, List.getElem?_map]
  have hlength : page'.length = page.length := by
    rw [← length_reconcile page]
    simpa using congrArg List.length hkeys
  have hid : idAt page' = idAt page ∘ formerAt page := by
    rw [← idAt_reconcile]
    funext i
    simpa [idAt, Function.comp_def, Node.key] using
      congrArg (fun k => (k.map Prod.fst).getD "") (hnodes i)
  have hparent : parentAt page' = parentAt page ∘ formerAt page := by
    rw [← parentAt_reconcile]
    funext i
    simpa [parentAt, Function.comp_def, Node.key] using
      congrArg (fun k => (k.map Prod.snd).getD "") (hnodes i)
  have horder : order? (idAt page) (parentAt page) room (List.range page.length) =
      some (positions page) := by
    refine (order?_cases _ _ List.nodup_range room).resolve_right fun hnot => ?_
    rw [reconcile?_eq, hnot.1] at h
    cases h
  have hagain := order?_again List.nodup_range horder
  rw [← map_formerAt, order?_map (formerAt_injective page), ← hid, ← hparent, ← hlength,
    Option.map_eq_some_iff] at hagain
  obtain ⟨out, hout, hmapped⟩ := hagain
  rw [reconcile?_eq, hout, List.map_injective_iff.mpr (formerAt_injective page) hmapped,
    Option.map_some, filterMap_range_getElem?]

namespace Hierarchy

variable {h : Hierarchy} {rows : List Row}

theorem arrange_of_legible (hrows : ∀ row ∈ rows, h.IsLegible row)
    (hshallow : Shallow room (h.page rows)) :
    h.arrange room rows = .ok (reconcile (h.page rows)) := by
  have hpage := (reconcile?_cases room (h.page rows)).resolve_right fun hnot => hnot.2 hshallow
  rw [arrange, readPage_of_legible hrows]
  simp only [bind, Except.bind, hpage]
  rfl

theorem arrange_of_illegible {row : Row} (hrow : row ∈ rows) (hillegible : ¬ h.IsLegible row) :
    h.arrange room rows = .error .unwritable := by
  have hread := ((h.readPage_cases rows).resolve_left fun hok => hillegible (hok.1 row hrow)).2
  rw [arrange, hread]
  rfl

/-- A page is put into the order of the hierarchy unless a key cannot be read or there is no room
for its levels. -/
theorem arrange_cases (h : Hierarchy) (room : Nat) (rows : List Row) :
    ((∀ row ∈ rows, h.IsLegible row) ∧
        h.arrange room rows = .ok (reconcile (h.page rows))) ∨
      (∃ row ∈ rows, ¬ h.IsLegible row) ∧ h.arrange room rows = .error .unwritable ∨
      (∀ row ∈ rows, h.IsLegible row) ∧ ¬ Shallow room (h.page rows) ∧
        h.arrange room rows = .error (.tooDeep .calls) := by
  rcases h.readPage_cases rows with ⟨hlegible, hread⟩ | ⟨hillegible, hread⟩
  · rcases reconcile?_cases room (h.page rows) with hpage | ⟨hpage, hdeep⟩
    · refine .inl ⟨hlegible, ?_⟩
      simp only [arrange, hread, bind, Except.bind, hpage]
      rfl
    · refine .inr (.inr ⟨hlegible, hdeep, ?_⟩)
      simp only [arrange, hread, bind, Except.bind, hpage]
  · refine .inr (.inl ⟨hillegible, ?_⟩)
    rw [arrange, hread]
    rfl

theorem arrange_eq_ok {page : List Node} (hok : h.arrange room rows = .ok page) :
    (∀ row ∈ rows, h.IsLegible row) ∧ page = reconcile (h.page rows) := by
  rcases h.arrange_cases room rows with ⟨hlegible, hpage⟩ | ⟨-, herror⟩ | ⟨-, -, herror⟩
  · exact ⟨hlegible, Except.ok.inj (hok.symm.trans hpage)⟩
  · rw [herror] at hok
    cases hok
  · rw [herror] at hok
    cases hok

/-- The rows of an arranged page can be read. -/
theorem legible_of_arrange {page : List Node} (hok : h.arrange room rows = .ok page) :
    ∀ n ∈ page, h.IsLegible n.row := by
  obtain ⟨hlegible, rfl⟩ := arrange_eq_ok hok
  intro n hn
  obtain ⟨i, row, hrow, rfl⟩ := mem_page.mp ((reconcile_perm _).mem_iff.mp hn)
  exact hlegible row (List.mem_of_getElem? hrow)

/-- A page that was put in order is found in order. -/
theorem arrange_again {page : List Node} (hok : h.arrange room rows = .ok page) :
    h.arrange room (page.map Node.row) = .ok (h.page (page.map Node.row)) := by
  have hlegible := legible_of_arrange hok
  obtain ⟨hrows, rfl⟩ := arrange_eq_ok hok
  have hpage : reconcile? room (h.page rows) = some (reconcile (h.page rows)) := by
    refine (reconcile?_cases room (h.page rows)).resolve_right fun hnot => ?_
    rw [arrange, readPage_of_legible hrows] at hok
    simp only [bind, Except.bind, hnot.1] at hok
    cases hok
  have hkeys : (h.page ((reconcile (h.page rows)).map Node.row)).map Node.key =
      (reconcile (h.page rows)).map Node.key := by
    rw [h.map_page (fun _ _ => h.key_node _ _), List.map_map]
    refine List.map_congr_left fun n hn => ?_
    obtain ⟨i, row, -, rfl⟩ := mem_page.mp ((reconcile_perm _).mem_iff.mp hn)
    rfl
  have hagain := reconcile?_eq_self hpage hkeys
  rw [arrange, readPage_of_legible (List.forall_mem_map.mpr hlegible)]
  simp only [bind, Except.bind, hagain]
  rfl

/-- A page is put into an order that keeps all its rows, that is found again, and in which every id
has a run if there is no cycle of parents; or else a key cannot be read, or there is no room for the
levels of the page. -/
theorem arrange_orders (h : Hierarchy) (room : Nat) (rows : List Row) :
    (∃ page, h.arrange room rows = .ok page ∧ (∀ row ∈ rows, h.IsLegible row) ∧
        page.Perm (h.page rows) ∧
        h.arrange room (page.map Node.row) = .ok (h.page (page.map Node.row)) ∧
        (Acyclic Node.id Node.parent (h.page rows) → ∀ id, id ≠ "" →
          (∃ n ∈ h.page rows, n.id = id) →
            HasRun Node.id Node.parent (h.page rows) id page)) ∨
      h.arrange room rows = .error .unwritable ∧ (∃ row ∈ rows, ¬ h.IsLegible row) ∨
      h.arrange room rows = .error (.tooDeep .calls) ∧ ¬ Shallow room (h.page rows) := by
  rcases h.arrange_cases room rows with ⟨hlegible, hpage⟩ | ⟨hillegible, herror⟩ |
    ⟨-, hdeep, herror⟩
  · refine .inl ⟨_, hpage, hlegible, reconcile_perm _, arrange_again hpage, ?_⟩
    exact fun hacyclic _ hne hmem => reconcile_hasRun hacyclic hne hmem
  · exact .inr (.inl ⟨herror, hillegible⟩)
  · exact .inr (.inr ⟨herror, hdeep⟩)

end Hierarchy

/-- A child, its parent, which is one itself, and the parent of both. -/
def ancestry : List Row :=
  [[("id", .text "c"), ("parent_id", .text "b")], [("id", .text "b"), ("parent_id", .text "a")],
    [("id", .text "a")]]

theorem ancestry_acyclic : Acyclic Node.id Node.parent (({} : Hierarchy).page ancestry) := by
  refine Acyclic.of_rank (fun id => if id = "a" then 0 else if id = "b" then 1 else 2) ?_
  decide

theorem ancestry_arranged : ∃ page, ({} : Hierarchy).arrange 990 ancestry = .ok page ∧
    page.map Node.id = ["a", "b", "c"] ∧
    HasRun Node.id Node.parent (({} : Hierarchy).page ancestry) "a" page := by
  have hok : ({} : Hierarchy).arrange 990 ancestry = .ok _ := rfl
  rcases ({} : Hierarchy).arrange_orders 990 ancestry with ⟨page, hpage, -, -, -, hrun⟩ |
    ⟨herror, -⟩ | ⟨herror, -⟩
  · refine ⟨page, hpage, ?_, hrun ancestry_acyclic "a" (by decide) (by decide)⟩
    obtain rfl := Except.ok.inj (hok.symm.trans hpage)
    rfl
  · rw [hok] at herror
    cases herror
  · rw [hok] at herror
    cases herror

/-! ### Lineages -/

/-- The name of a row of a lineage. -/
def rowName (i : Nat) : String := toString i

/-- Rows of which each names the one before as its parent; the parent of the first one is
missing. -/
def lineage (n : Nat) : List Row :=
  (List.range n).map fun i => [("id", .text (rowName (i + 1))), ("parent_id", .text (rowName i))]

theorem rowName_injective : Function.Injective rowName := fun i j h => by
  have hdigits : Numeral.digitsOf i = Numeral.digitsOf j := by
    rw [← Numeral.toList_toString, ← Numeral.toList_toString]
    exact congrArg String.toList h
  rw [← Numeral.ofDigitChars_digitsOf i, hdigits, Numeral.ofDigitChars_digitsOf]

theorem rowName_ne_empty (i : Nat) : rowName i ≠ "" := fun h => by
  have hdigits : Numeral.digitsOf i = [] := by
    rw [← Numeral.toList_toString]
    exact congrArg String.toList h
  exact Numeral.digitsOf_ne_nil i hdigits

section Lineage

variable {id parent : Nat → String} {n : Nat} (hid : ∀ i < n, id i = rowName (i + 1))
  (hparent : ∀ i < n, parent i = rowName i)

include hid hparent

/-- Under each row stands the next one. -/
theorem children_lineage {i : Nat} (hi : i + 1 < n) :
    children id parent (List.range n) i = [i + 1] := by
  have hiff : ∀ j ∈ List.range n,
      (parent j != "" && parent j != id j && parent j == id i) = (j == i + 1) := by
    intro j hj
    have hj := List.mem_range.mp hj
    rw [hparent j hj, hid j hj, hid i (Nat.lt_of_succ_lt hi), Bool.eq_iff_iff]
    simp only [Bool.and_eq_true, bne_iff_ne, beq_iff_eq, rowName_injective.eq_iff]
    have hself : rowName j ≠ rowName (j + 1) := rowName_injective.ne j.lt_succ_self.ne
    exact ⟨And.right, fun heq => ⟨⟨rowName_ne_empty j, hself⟩, heq⟩⟩
  rw [children, List.filter_congr hiff, List.filter_beq,
    List.count_eq_one_of_mem List.nodup_range (List.mem_range.mpr hi)]
  rfl

/-- A walk along a lineage ends early if it goes on behind the last level there is room for. -/
theorem emit_lineage {i room : Nat} (h : i + room < n) :
    emit id parent (List.range n) room (List.range i) i = none := by
  induction room generalizing i with
  | zero => exact emit_zero_of_not_mem List.not_mem_range_self
  | succ room ih =>
      rw [emit_succ_of_not_mem List.not_mem_range_self, children_lineage hid hparent (by omega),
        List.foldlM_cons, ← List.range_succ, ih (by omega)]
      rfl

theorem order?_lineage {room : Nat} (h : room < n) :
    order? id parent room (List.range n) = none := by
  have hn : 0 < n := Nat.zero_lt_of_lt h
  have hroot : isChild id parent (List.range n) 0 = false := by
    refine Bool.eq_false_iff.mpr fun hchild => ?_
    obtain ⟨-, p, hp, hnamed⟩ := by simpa [isChild] using hchild
    rw [hid p hp, hparent 0 hn] at hnamed
    exact absurd (rowName_injective hnamed) p.succ_ne_zero
  have hrange : List.range n = 0 :: (List.range (n - 1)).map Nat.succ := by
    rw [← List.range_succ_eq_map, Nat.sub_add_cancel hn]
  have hroots : ∃ rest,
      (List.range n).filter (!isChild id parent (List.range n) ·) = 0 :: rest := by
    rw [hrange] at hroot ⊢
    exact ⟨_, List.filter_cons_of_pos (by simp [hroot])⟩
  obtain ⟨rest, hroots⟩ := hroots
  have hfirst := emit_lineage hid hparent (i := 0) (by omega : 0 + room < n)
  rw [List.range_zero] at hfirst
  rw [order?_eq_foldlM, hroots, List.cons_append, List.foldlM_cons, hfirst]
  rfl

end Lineage

theorem getElem?_page_lineage {i n : Nat} (hi : i < n) : (({} : Hierarchy).page (lineage n))[i]? =
    some (({} : Hierarchy).node (.hit i)
      [("id", .text (rowName (i + 1))), ("parent_id", .text (rowName i))]) := by
  simp [Hierarchy.page, lineage, hi]

theorem legible_lineage {n : Nat} : ∀ row ∈ lineage n, ({} : Hierarchy).IsLegible row := by
  intro row hrow
  obtain ⟨i, -, rfl⟩ := List.mem_map.mp hrow
  exact Hierarchy.isLegible_iff.mpr ⟨⟨_, rfl⟩, ⟨_, rfl⟩⟩

theorem lineage_ne_nil {n : Nat} (hn : 0 < n) : lineage n ≠ [] := by
  simpa [lineage] using hn.ne'

theorem length_page_lineage (n : Nat) : (({} : Hierarchy).page (lineage n)).length = n := by
  simp [Hierarchy.page, lineage]

/-- There is no order for a lineage with more rows than there is room for levels. -/
theorem arrange_lineage_of_lt {room n : Nat} (h : room < n) :
    ({} : Hierarchy).arrange room (lineage n) = .error (.tooDeep .calls) := by
  have hnone : reconcile? room (({} : Hierarchy).page (lineage n)) = none := by
    rw [reconcile?_eq, length_page_lineage,
      order?_lineage (fun i hi => ?_) (fun i hi => ?_) h]
    · rfl
    · rw [idAt, getElem?_page_lineage hi]
      rfl
    · rw [parentAt, getElem?_page_lineage hi]
      rfl
  rw [Hierarchy.arrange, Hierarchy.readPage_of_legible legible_lineage]
  simp only [bind, Except.bind, hnone]

/-- However much room there is, it is enough for a lineage only if it has no more rows. -/
theorem arrange_lineage (room n : Nat) :
    (∃ page, ({} : Hierarchy).arrange room (lineage n) = .ok page) ↔ n ≤ room := by
  constructor
  · rintro ⟨page, hok⟩
    by_contra hlong
    rw [arrange_lineage_of_lt (by omega)] at hok
    cases hok
  · intro hle
    have hshallow := shallow_of_length_le ((length_page_lineage n).trans_le hle)
    exact ⟨_, Hierarchy.arrange_of_legible legible_lineage hshallow⟩

/-- A lineage that is too long for the room there is by default. -/
def dynasty : Table where
  columns := [⟨"id", .text⟩, ⟨"parent_id", .text⟩]
  rows := lineage 1200

theorem dynasty_rows : dynasty.rows = lineage 1200 := by
  rw [dynasty]

theorem dynasty_rows_ne_nil : dynasty.rows ≠ [] := by
  rw [dynasty_rows]
  exact lineage_ne_nil (by decide)

theorem arrange_dynasty : ({} : Hierarchy).arrange 990 dynasty.rows = .error (.tooDeep .calls) := by
  rw [dynasty_rows]
  exact arrange_lineage_of_lt (by decide)

/-- No order is found for the rows of a long lineage. -/
theorem dynasty_not_arranged : ¬ ∃ page, ({} : Hierarchy).arrange 990 dynasty.rows = .ok page := by
  rintro ⟨page, hok⟩
  rw [arrange_dynasty] at hok
  cases hok

end CriteriaSearch
