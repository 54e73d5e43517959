import CriteriaSearch.Proofs.Lists
import CriteriaSearch.Proofs.Number.Numeral
import CriteriaSearch.Proofs.Url.Parts
import CriteriaSearch.Query.Compile

/-!
# Queries are read back from their requests

The parameters of a request, written as form data behind an address, make a URL from which the query
is read again. Only its endpoint and its expansion are not part of the request.
-/

namespace CriteriaSearch.Query

open Text

/-- The parameters that are parts of a query of their own. -/
def reserved : List String := ["q", "fq", "sort", "start", "rows"]

/-- A query whose request says unambiguously what its parts are: its sort fields are single words of
a sort parameter, no extra parameter is taken for another part, and its window has numerals. -/
structure IsLegible (q : Query) : Prop where
  field_ne : ∀ item ∈ q.sort, item.1 ≠ ""
  comma : ∀ item ∈ q.sort, ',' ∉ item.1.toList
  solid : ∀ item ∈ q.sort, Solid item.1.toList
  nodup : (q.params.map Prod.fst).Nodup
  params : ∀ p ∈ q.params, p.1 ∉ reserved
  offset : Numeral.width q.offset.natAbs ≤ Numeral.maxDigits
  limit : Numeral.width q.limit.natAbs ≤ Numeral.maxDigits

variable {q : Query}

/-! ### Sort orders -/

theorem ofText_name (d : Direction) : Direction.ofText d.name.toList = d := by
  cases d <;> decide

theorem words_name (d : Direction) : words d.name.toList = [d.name.toList] := by
  cases d <;> decide

theorem comma_not_mem_name (d : Direction) : ',' ∉ d.name.toList := by
  cases d <;> decide

def sortText (item : String × Direction) : String := item.1 ++ " " ++ item.2.name

theorem sortText_toList (item : String × Direction) :
    (sortText item).toList = item.1.toList ++ ' ' :: item.2.name.toList := by
  simp [sortText, String.toList_append]

theorem words_sortText {item : String × Direction} (hne : item.1 ≠ "")
    (hsolid : Solid item.1.toList) :
    words (sortText item).toList = [item.1.toList, item.2.name.toList] := by
  have hchars : item.1.toList ≠ [] := fun h => hne (String.toList_eq_nil_iff.mp h)
  rw [sortText_toList, words_append hchars hsolid (forall_head_cons (by decide) _),
    words_blank (by decide), words_name]

/-- What one piece of a sort parameter stands for. -/
def sortItem? (piece : List Char) : Option (String × Direction) :=
  match words piece with
  | [] => none
  | [field] => some (String.ofList field, .asc)
  | field :: direction :: _ => some (String.ofList field, .ofText direction)

theorem sortOfParam_eq (s : String) :
    sortOfParam s = (splitAt ',' s.toList).filterMap sortItem? := rfl

theorem sortItem?_sortText {item : String × Direction} (hne : item.1 ≠ "")
    (hsolid : Solid item.1.toList) : sortItem? (sortText item).toList = some item := by
  rw [sortItem?, words_sortText hne hsolid]
  dsimp only
  rw [String.ofList_toList, ofText_name]

theorem sortOfParam_sortParam (hq : q.IsLegible) {order : String} (h : q.sortParam = some order) :
    sortOfParam order = q.sort := by
  unfold sortParam at h
  split_ifs at h with hempty
  have horder : joinWith (String.singleton ',') (q.sort.map sortText) = order := Option.some.inj h
  have hne : q.sort.map sortText ≠ [] := by simpa using hempty
  have hpieces : ∀ piece ∈ q.sort.map sortText, ',' ∉ piece.toList := by
    intro piece hpiece
    obtain ⟨item, hitem, rfl⟩ := List.mem_map.mp hpiece
    rw [sortText_toList]
    intro hmem
    rcases List.mem_append.mp hmem with hmem | hmem
    · exact hq.comma item hitem hmem
    · rcases List.mem_cons.mp hmem with heq | hmem
      · exact absurd heq (by decide)
      · exact comma_not_mem_name item.2 hmem
  have hitems : ∀ item ∈ q.sort, (sortItem? ∘ String.toList ∘ sortText) item = some item :=
    fun item hitem => sortItem?_sortText (hq.field_ne item hitem) (hq.solid item hitem)
  rw [sortOfParam_eq, ← horder, splitAt_joinWith hne hpieces, List.map_map, List.filterMap_map,
    List.filterMap_congr hitems, List.filterMap_some]

/-! ### Parameters -/

theorem takeParams_cons {a b : Query} {p : String × String} (h : takeParam a p = .ok b)
    (ps : List (String × String)) : (p :: ps).foldlM takeParam a = ps.foldlM takeParam b := by
  rw [List.foldlM_cons, h]
  rfl

theorem takeParams_append {ps : List (String × String)} {a b : Query}
    (h : ps.foldlM takeParam a = .ok b) (qs : List (String × String)) :
    (ps ++ qs).foldlM takeParam a = qs.foldlM takeParam b := by
  rw [List.foldlM_append, h]
  rfl

theorem takeParams_filters (clauses : List String) (q : Query) :
    (clauses.map fun clause => ("fq", clause)).foldlM takeParam q =
      .ok { q with filters := q.filters ++ clauses } := by
  induction clauses generalizing q with
  | nil => simp [pure, Except.pure]
  | cons clause clauses ih =>
      have hstep : takeParam q ("fq", clause) =
          .ok { q with filters := q.filters ++ [clause] } := rfl
      rw [List.map_cons, takeParams_cons hstep, ih, List.append_assoc, List.singleton_append]

theorem takeParam_of_not_reserved {p : String × String} (hp : p.1 ∉ reserved) (q : Query) :
    takeParam q p = .ok { q with params := q.params.set p.1 p.2 } := by
  simp only [reserved, List.mem_cons, List.not_mem_nil, or_false, not_or] at hp
  obtain ⟨hquery, hfilter, hsort, hstart, hrows⟩ := hp
  obtain ⟨name, s⟩ := p
  unfold takeParam
  dsimp only at *
  rw [if_neg hquery, if_neg hfilter, if_neg hsort, if_neg hstart, if_neg hrows]

theorem takeParams_params {ps : List (String × String)} (q : Query)
    (hreserved : ∀ p ∈ ps, p.1 ∉ reserved) (hnodup : ((q.params ++ ps).map Prod.fst).Nodup) :
    ps.foldlM takeParam q = .ok { q with params := q.params ++ ps } := by
  induction ps generalizing q with
  | nil => simp [pure, Except.pure]
  | cons p ps ih =>
      obtain ⟨hp, hrest⟩ := List.forall_mem_cons.mp hreserved
      have hnew : p.1 ∉ q.params.map Prod.fst := by
        intro hmem
        rw [List.map_append] at hnodup
        exact (List.nodup_append.mp hnodup).2.2 _ hmem _ (List.mem_cons_self) rfl
      have hstep : takeParam q p = .ok { q with params := q.params ++ [p] } := by
        rw [takeParam_of_not_reserved hp, Named.set_of_not_mem p.2 hnew]
      -- What was appended counts among the names that the rest has to differ from.
      have hnodup' : (((q.params ++ [p]) ++ ps).map Prod.fst).Nodup := by simpa using hnodup
      rw [takeParams_cons hstep, ih _ hrest hnodup', List.append_assoc, List.singleton_append]

theorem windowParam_text (name : String) {n : Int}
    (hn : Numeral.width n.natAbs ≤ Numeral.maxDigits) :
    windowParam name (Numeral.text n) = .ok n := by
  rw [windowParam, Numeral.int?_text hn]

theorem takeParams_sort (hq : q.IsLegible) {made : Query} (hmade : made.sort = []) :
    (q.sortParam.toList.map fun order => ("sort", order)).foldlM takeParam made =
      .ok { made with sort := q.sort } := by
  cases h : q.sortParam with
  | none =>
      have hempty : q.sort = [] := by
        unfold sortParam at h
        split_ifs at h with hempty
        exact List.isEmpty_iff.mp hempty
      rw [hempty, ← hmade]
      rfl
  | some order =>
      have hstep : takeParam made ("sort", order) =
          .ok { made with sort := made.sort ++ sortOfParam order } := rfl
      rw [sortOfParam_sortParam hq h, hmade] at hstep
      exact takeParams_cons hstep []

theorem takeParams_window (hq : q.IsLegible) (made : Query) :
    [("start", Numeral.text q.offset), ("rows", Numeral.text q.limit)].foldlM takeParam made =
      .ok (made.withWindow q.offset q.limit) := by
  have hstart : takeParam made ("start", Numeral.text q.offset) =
      .ok { made with offset := q.offset } := by
    simp [takeParam, windowParam_text "start" hq.offset, bind, Except.bind, pure, Except.pure]
  have hrows : takeParam { made with offset := q.offset } ("rows", Numeral.text q.limit) =
      .ok (made.withWindow q.offset q.limit) := by
    simp [takeParam, windowParam_text "rows" hq.limit, bind, Except.bind, pure, Except.pure,
      withWindow]
  rw [takeParams_cons hstart, takeParams_cons hrows]
  rfl

theorem toParams_eq (q : Query) : q.toParams =
    ("q", q.query) :: (q.filters.map (fun clause => ("fq", clause)) ++
      (q.sortParam.toList.map (fun order => ("sort", order)) ++
        ([("start", Numeral.text q.offset), ("rows", Numeral.text q.limit)] ++ q.params))) := by
  unfold toParams
  cases q.sortParam <;> simp

/-- A query is read from the parameters of its request, but for its endpoint and its expansion. -/
theorem takeParams_toParams (hq : q.IsLegible) (endpoint : String) :
    q.toParams.foldlM takeParam { endpoint } = .ok { q with endpoint, expansion := none } := by
  have hquery : takeParam { endpoint } ("q", q.query) = .ok { endpoint, query := q.query } := rfl
  have hnodup : (([] ++ q.params).map Prod.fst).Nodup := hq.nodup
  rw [toParams_eq, takeParams_cons hquery, takeParams_append (takeParams_filters q.filters _),
    takeParams_append (takeParams_sort hq rfl), takeParams_append (takeParams_window hq _),
    takeParams_params _ hq.params hnodup]
  rfl

theorem request_eq (hq : q.IsLegible) : q.request = .ok q.toParams := by
  rw [request, Numeral.text?, Numeral.text?, if_pos hq.offset, if_pos hq.limit]
  rfl

/-! ### Round trip -/

/-- A query is read from every URL that asks its request of an address. -/
theorem ofUrl_written (hq : q.IsLegible) {base : String} {parts : Url}
    (haddress : Url.ofText base = .ok parts) (hwhole : Url.Whole base.toList) {w : List Char}
    (hw : Form.Written q.toParams w) (endpoint : String) :
    ofUrl endpoint (base ++ "?" ++ String.ofList w) =
      .ok { q with endpoint, expansion := none } := by
  have hchars : ∀ c ∈ w, c ≠ '#' ∧ Url.isRemoved c = false := by
    intro c hc
    rcases hw.isSafe c hc with hsafe | rfl | rfl
    · have htab := Form.ne_of_isSafe (d := '\t') hsafe (by decide)
      have hfeed := Form.ne_of_isSafe (d := '\n') hsafe (by decide)
      have hreturn := Form.ne_of_isSafe (d := '\r') hsafe (by decide)
      exact ⟨Form.ne_of_isSafe hsafe (by decide), by simp [Url.isRemoved, htab, hfeed, hreturn]⟩
    · decide
    · decide
  rw [ofUrl, Url.ofText_withQuery hwhole (fun hmem => (hchars '#' hmem).1 rfl)
    (fun c hc => (hchars c hc).2), haddress]
  have hpairs : Form.pairs (String.ofList w).toList = q.toParams := by
    rw [String.toList_ofList, Form.pairs_written hw]
  have hread := takeParams_toParams hq endpoint
  rw [← hpairs] at hread
  exact hread

/-- Reading a URL undoes the encoding of a request. -/
theorem ofUrl_request (hq : q.IsLegible) (endpoint : String) :
    ∃ params, q.request = .ok params ∧ ∀ w, Form.Written params w →
      ofUrl endpoint ("http://host/path?" ++ String.ofList w) =
        .ok { q with endpoint, expansion := none } := by
  refine ⟨q.toParams, request_eq hq, fun w hw => ?_⟩
  have haddress : Url.ofText "http://host/path" = .ok ⟨"http", "host", "/path", ""⟩ := by
    decide +kernel
  have hwhole : Url.Whole "http://host/path".toList := by
    have hall : "http://host/path".toList.all (fun c => c != '?' && c != '#') = true := by decide
    intro c hc
    simpa using List.all_eq_true.mp hall c hc
  have hbase : "http://host/path" ++ "?" = "http://host/path?" := by decide
  rw [← hbase]
  exact ofUrl_written hq haddress hwhole hw endpoint

/-- Blanks, separators and signs of the writing itself in every part. -/
def awkward : Query where
  query := " a+b&c=%20 ü😀"
  filters := ["", "x:\"1\"", "x:\"1\""]
  sort := [("price", .desc), ("größe", .asc)]
  offset := -7
  endpoint := "/fine"
  params := [("", ""), ("Q", "#?"), ("a=b", "\r\n")]
  expansion := some "full"

theorem ofUrl_request_awkward : awkward.IsLegible ∧
    ofUrl "/select" ("http://host/path?" ++ String.ofList (Form.render awkward.toParams)) =
      .ok { awkward with endpoint := "/select", expansion := none } := by
  have hsolid : ∀ item ∈ awkward.sort, Solid item.1.toList := by
    have hall : awkward.sort.all (fun item => item.1.toList.all (!isBlank ·)) = true := by decide
    intro item hitem c hc
    simpa using List.all_eq_true.mp (List.all_eq_true.mp hall item hitem) c hc
  have hq : awkward.IsLegible :=
    ⟨by decide, by decide, hsolid, by decide, by decide, by decide, by decide⟩
  obtain ⟨params, hparams, hread⟩ := ofUrl_request hq "/select"
  rw [request_eq hq] at hparams
  rw [Except.ok.inj hparams]
  exact ⟨hq, hread _ (Form.written_render params)⟩

end CriteriaSearch.Query
