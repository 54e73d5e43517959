import CriteriaSearch.Page.Reconcile
import CriteriaSearch.Proofs.Lists
import CriteriaSearch.Proofs.Value.Text

/-!
# Rows that can be read

A cell has no text exactly if there is an integer in it that is too long for a numeral. Reading
cells fails at the first one without a text, and always in the same way; a page is read if all its
rows have a key.
-/

namespace CriteriaSearch

/-- The failure of reading a cell that has no text. -/
abbrev Failure.unwritable : Failure := .operand (.numeral .tooLong)

namespace Hierarchy

/-- The cell of a row has a text. -/
def HasText (row : Row) (name : String) : Prop := ∃ s, cell row name = .ok s

/-- The key of a row can be read. -/
def IsLegible (h : Hierarchy) (row : Row) : Prop := ∀ name ∈ h.keyNames, HasText row name

variable {row : Row} {rows : List Row} {name : String} {names : List String}

theorem cell_eq (row : Row) (name : String) : cell row name =
    if (Row.get row name).first.isWritable then .ok (cellText row name) else .error .tooLong := by
  unfold cellText cell Value.written
  dsimp only
  cases hnull : (Row.get row name).first.isNull with
  | true => simp [Value.isWritable_of_isNull hnull, Except.toOption]
  | false => cases (Row.get row name).first.isWritable <;> simp [Except.toOption]

theorem hasText_iff : HasText row name ↔ (Row.get row name).first.isWritable = true := by
  unfold HasText
  rw [cell_eq]
  cases (Row.get row name).first.isWritable <;> simp

instance (row : Row) (name : String) : Decidable (HasText row name) :=
  decidable_of_iff _ hasText_iff.symm

instance (h : Hierarchy) (row : Row) : Decidable (h.IsLegible row) :=
  inferInstanceAs (Decidable (∀ name ∈ h.keyNames, HasText row name))

theorem cell_of_not_hasText (h : ¬ HasText row name) : cell row name = .error .tooLong := by
  rw [cell_eq, if_neg fun hwritable => h (hasText_iff.mpr hwritable)]

theorem hasText_of_cellText_ne (h : cellText row name ≠ "") : HasText row name := by
  by_contra hnot
  refine h ?_
  rw [cellText, cell_of_not_hasText hnot]
  rfl

theorem isLegible_iff {h : Hierarchy} :
    h.IsLegible row ↔ HasText row h.id ∧ HasText row h.parent := by
  simp [IsLegible, keyNames]

/-! ### Cells of many rows -/

theorem mapM_cell_cases (names : List String) (row : Row) :
    ((∀ name ∈ names, HasText row name) ∧ ∃ ss, names.mapM (cell row) = .ok ss) ∨
      (∃ name ∈ names, ¬ HasText row name) ∧ names.mapM (cell row) = .error .tooLong := by
  cases hread : names.mapM (cell row) with
  | ok ss =>
      refine .inl ⟨fun name hname => ?_, ss, rfl⟩
      exact exists_ok_of_mapM hread hname
  | error cause =>
      obtain ⟨name, hname, hcell⟩ := exists_of_mapM_eq_error hread
      have hnot : ¬ HasText row name := fun ⟨s, hs⟩ => by
        rw [hs] at hcell
        cases hcell
      rw [cell_of_not_hasText hnot] at hcell
      exact .inr ⟨⟨name, hname, hnot⟩, by rw [Except.error.inj hcell]⟩

/-- The cells of rows are read as far as all of them have a text. -/
theorem texts_cases (names : List String) (rows : List Row) :
    ((∀ row ∈ rows, ∀ name ∈ names, HasText row name) ∧ ∃ read, texts names rows = .ok read) ∨
      (∃ row ∈ rows, ∃ name ∈ names, ¬ HasText row name) ∧
        texts names rows = .error .unwritable := by
  unfold texts
  cases hread : rows.mapM fun row => names.mapM (cell row) with
  | ok read =>
      refine .inl ⟨fun row hrow => ?_, read, rfl⟩
      obtain ⟨ss, hss⟩ := exists_ok_of_mapM hread hrow
      rcases mapM_cell_cases names row with ⟨hall, -⟩ | ⟨-, herror⟩
      · exact hall
      · rw [herror] at hss
        cases hss
  | error cause =>
      obtain ⟨row, hrow, herror⟩ := exists_of_mapM_eq_error hread
      rcases mapM_cell_cases names row with ⟨-, ss, hss⟩ | ⟨hsome, hlong⟩
      · rw [hss] at herror
        cases herror
      · rw [hlong] at herror
        exact .inr ⟨⟨row, hrow, hsome⟩, by rw [← Except.error.inj herror]; rfl⟩

theorem texts_of_hasText (h : ∀ row ∈ rows, ∀ name ∈ names, HasText row name) :
    ∃ read, texts names rows = .ok read := by
  rcases texts_cases names rows with ⟨-, hread⟩ | ⟨⟨row, hrow, name, hname, hnot⟩, -⟩
  · exact hread
  · exact absurd (h row hrow name hname) hnot

theorem hasText_of_texts {read : List (List String)} (h : texts names rows = .ok read) :
    ∀ row ∈ rows, ∀ name ∈ names, HasText row name := by
  rcases texts_cases names rows with ⟨hall, -⟩ | ⟨-, herror⟩
  · exact hall
  · rw [herror] at h
    cases h

/-- For what follows only matters whether the cells have texts. -/
theorem texts_bind_congr {β : Type} {rows' : List Row}
    (h : (∀ row ∈ rows, ∀ name ∈ names, HasText row name) ↔
      ∀ row ∈ rows', ∀ name ∈ names, HasText row name) (next : Except Failure β) :
    (texts names rows >>= fun _ => next) = (texts names rows' >>= fun _ => next) := by
  by_cases hrows : ∀ row ∈ rows, ∀ name ∈ names, HasText row name
  · obtain ⟨read, hread⟩ := texts_of_hasText hrows
    obtain ⟨read', hread'⟩ := texts_of_hasText (h.mp hrows)
    rw [hread, hread']
    rfl
  · have herror := ((texts_cases names rows).resolve_left fun hok => hrows hok.1).2
    have herror' := ((texts_cases names rows').resolve_left fun hok => hrows (h.mpr hok.1)).2
    rw [herror, herror']

/-! ### Pages -/

theorem mem_page {h : Hierarchy} {rows : List Row} {n : Node} :
    n ∈ h.page rows ↔ ∃ i row, rows[i]? = some row ∧ n = h.node (.hit i) row := by
  simp only [page, List.mem_map, Prod.exists, List.mem_zipIdx_iff_getElem?]
  constructor
  · rintro ⟨row, i, hrow, rfl⟩
    exact ⟨i, row, hrow, rfl⟩
  · rintro ⟨i, row, hrow, rfl⟩
    exact ⟨row, i, hrow, rfl⟩

/-- The key of a row. -/
def key (h : Hierarchy) (row : Row) : Key := (cellText row h.id, cellText row h.parent)

theorem key_node (h : Hierarchy) (origin : Origin) (row : Row) :
    (h.node origin row).key = h.key row := rfl

theorem map_page {β : Type} (h : Hierarchy) {g : Node → β} {g' : Row → β}
    (hg : ∀ i row, g (h.node (.hit i) row) = g' row) (rows : List Row) :
    (h.page rows).map g = rows.map g' := by
  conv_rhs => rw [← List.zipIdx_map_fst 0 rows]
  rw [page, List.map_map, List.map_map]
  exact List.map_congr_left fun p _ => hg p.2 p.1

theorem readPage_of_legible {h : Hierarchy} (hrows : ∀ row ∈ rows, h.IsLegible row) :
    h.readPage rows = .ok (h.page rows) := by
  obtain ⟨read, hread⟩ := texts_of_hasText hrows
  rw [readPage, hread]
  rfl

theorem readPage_cases (h : Hierarchy) (rows : List Row) :
    ((∀ row ∈ rows, h.IsLegible row) ∧ h.readPage rows = .ok (h.page rows)) ∨
      (∃ row ∈ rows, ¬ h.IsLegible row) ∧ h.readPage rows = .error .unwritable := by
  rcases texts_cases h.keyNames rows with ⟨hall, -⟩ | ⟨⟨row, hrow, name, hname, hnot⟩, herror⟩
  · exact .inl ⟨hall, readPage_of_legible hall⟩
  · refine .inr ⟨⟨row, hrow, fun hlegible => hnot (hlegible name hname)⟩, ?_⟩
    rw [readPage, herror]
    rfl

end Hierarchy

end CriteriaSearch
