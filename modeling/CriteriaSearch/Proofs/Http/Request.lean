import CriteriaSearch.Http.Reply
import CriteriaSearch.Proofs.Lists
import CriteriaSearch.Proofs.Url.Form
import Mathlib.Data.List.Induction

/-!
# Parameters that are sent

A fetch sends one message or none. Its parameters are those of the query in the window that is asked
for, with JSON in place of every other format. Grouped by name, as a form has them and as they
arrive, they are still the same parameters: every name keeps its values in their order, and none is
lost or added.
-/

namespace CriteriaSearch.Http

/-! ### Values of a name -/

/-- The values that stand under a name, in order. -/
def valuesOf (params : Params) (name : String) : List String :=
  (params.filter (·.1 == name)).map Prod.snd

theorem valuesOf_append (params others : Params) (name : String) :
    valuesOf (params ++ others) name = valuesOf params name ++ valuesOf others name := by
  simp only [valuesOf, List.filter_append, List.map_append]

theorem valuesOf_group_self (name : String) (ss : List String) :
    valuesOf (ss.map fun s => (name, s)) name = ss := by
  induction ss with
  | nil => rfl
  | cons s ss ih => simpa [valuesOf] using ih

theorem valuesOf_group_of_ne {name other : String} (h : name ≠ other) (ss : List String) :
    valuesOf (ss.map fun s => (name, s)) other = [] := by
  simp [valuesOf, List.filter_map, Function.comp_def, beq_false_of_ne h]

theorem count_valuesOf (params : Params) (name s : String) :
    (valuesOf params name).count s = params.count (name, s) := by
  induction params with
  | nil => rfl
  | cons p params ih =>
      obtain ⟨n, s'⟩ := p
      rw [← List.singleton_append, valuesOf_append, List.count_append, List.count_append, ih]
      congr 1
      by_cases hn : n = name
      · simp [valuesOf, hn, List.count_singleton]
      · simp [valuesOf, hn]

/-- Parameters with the same values under every name are the same up to their order. -/
theorem perm_of_valuesOf {params others : Params}
    (h : ∀ name, valuesOf params name = valuesOf others name) : params.Perm others := by
  apply List.perm_iff_count.mpr
  rintro ⟨name, s⟩
  rw [← count_valuesOf, ← count_valuesOf, h]

namespace Form

/-! ### Forms -/

/-- The group of a name; without one it is empty. -/
def groupOf (form : Form) (name : String) : List String := (form.get? name).getD []

theorem ofParams_concat (params : Params) (p : String × String) :
    ofParams (params ++ [p]) = (ofParams params).push p.1 p.2 := by
  rw [ofParams, List.foldl_append]
  rfl

theorem groupOf_push (form : Form) (p : String × String) (name : String) :
    (form.push p.1 p.2).groupOf name = form.groupOf name ++ valuesOf [p] name := by
  obtain ⟨n, s⟩ := p
  by_cases hn : n = name
  · subst hn
    rw [groupOf, push, Named.get?_set_self]
    simp [groupOf, valuesOf]
  · rw [groupOf, push, Named.get?_set_of_ne form _ (Ne.symm hn)]
    simp [groupOf, valuesOf, hn]

theorem names_push (form : Form) (name s : String) :
    (form.push name s).map Prod.fst =
      if name ∈ form.map Prod.fst then form.map Prod.fst else form.map Prod.fst ++ [name] :=
  Named.names_set form name _

theorem groupOf_ofParams (params : Params) (name : String) :
    (ofParams params).groupOf name = valuesOf params name := by
  -- Values are appended to their groups, so the induction takes off the last parameter.
  induction params using List.reverseRecOn with
  | nil => rfl
  | append_singleton params p ih => rw [ofParams_concat, groupOf_push, ih, valuesOf_append]

/-- A group stands where its name first appears. -/
theorem names_ofParams (params : Params) :
    (ofParams params).map Prod.fst = (params.map Prod.fst).eraseDups := by
  induction params using List.reverseRecOn with
  | nil => rfl
  | append_singleton params p ih =>
      rw [ofParams_concat, names_push, List.map_append, List.map_singleton, eraseDups_concat, ih]
      simp only [List.contains_iff_mem]

theorem groupOf_cons (n : String) (ss : List String) (form : Form) (name : String) :
    groupOf ((n, ss) :: form) name = if n = name then ss else form.groupOf name := by
  rw [groupOf, Named.get?, List.lookup_cons]
  split_ifs with hn
  · simp [hn]
  · rw [beq_false_of_ne (Ne.symm hn)]
    rfl

theorem groupOf_of_mem {form : Form} (hnodup : (form.map Prod.fst).Nodup) {name : String}
    {ss : List String} (hmem : (name, ss) ∈ form) : form.groupOf name = ss := by
  rw [groupOf, Named.get?, lookup_eq_some_of_mem hnodup hmem]
  rfl

theorem groupOf_of_not_mem {form : Form} {name : String} (hmem : name ∉ form.map Prod.fst) :
    form.groupOf name = [] := by
  cases hget : form.get? name with
  | none =>
      rw [groupOf, hget]
      rfl
  | some ss => exact absurd (List.mem_map_of_mem (mem_of_lookup_eq_some hget)) hmem

theorem valuesOf_toParams {form : Form} (hnodup : (form.map Prod.fst).Nodup) (name : String) :
    valuesOf form.toParams name = form.groupOf name := by
  induction form with
  | nil => rfl
  | cons group form ih =>
      obtain ⟨n, ss⟩ := group
      obtain ⟨hn, hrest⟩ := List.nodup_cons.mp hnodup
      have hsplit : toParams ((n, ss) :: form) = (ss.map fun s => (n, s)) ++ toParams form := rfl
      rw [hsplit, valuesOf_append, ih hrest, groupOf_cons]
      split_ifs with heq
      · subst heq
        rw [valuesOf_group_self, groupOf_of_not_mem hn, List.append_nil]
      · rw [valuesOf_group_of_ne heq, List.nil_append]

/-- A form agrees with parameters if it has each of their names once, with all the values of the
name in order, and nothing else; written out, it has the same pairs as often. -/
structure Agrees (form : Form) (params : Params) : Prop where
  nodup : (form.map Prod.fst).Nodup
  mem_iff : ∀ name ss,
    (name, ss) ∈ form ↔ name ∈ params.map Prod.fst ∧ ss = valuesOf params name
  values : ∀ name, valuesOf form.toParams name = valuesOf params name
  perm : form.toParams.Perm params

theorem nodup_ofParams (params : Params) : ((ofParams params).map Prod.fst).Nodup := by
  rw [names_ofParams]
  exact nodup_eraseDups _

theorem mem_ofParams_iff {params : Params} {name : String} {ss : List String} :
    (name, ss) ∈ ofParams params ↔ name ∈ params.map Prod.fst ∧ ss = valuesOf params name := by
  have hnames : name ∈ (ofParams params).map Prod.fst ↔ name ∈ params.map Prod.fst := by
    rw [names_ofParams, List.mem_eraseDups]
  have hgroup : ∀ {ss}, (name, ss) ∈ ofParams params → ss = valuesOf params name := by
    intro ss hmem
    rw [← groupOf_ofParams, groupOf_of_mem (nodup_ofParams params) hmem]
  constructor
  · intro hmem
    exact ⟨hnames.mp (List.mem_map_of_mem hmem), hgroup hmem⟩
  · rintro ⟨hname, rfl⟩
    obtain ⟨⟨n, ss⟩, hmem, rfl⟩ := List.mem_map.mp (hnames.mpr hname)
    rwa [← hgroup hmem]

/-- Grouping loses nothing and adds nothing. -/
theorem agrees_ofParams (params : Params) : (ofParams params).Agrees params := by
  have hnodup := nodup_ofParams params
  have hvalues : ∀ name, valuesOf (ofParams params).toParams name = valuesOf params name := by
    intro name
    rw [valuesOf_toParams hnodup, groupOf_ofParams]
  exact ⟨hnodup, fun _ _ => mem_ofParams_iff, hvalues, perm_of_valuesOf hvalues⟩

example : ofParams [("fq", "b"), ("q", "*:*"), ("fq", "a"), ("fq", "b")] =
    [("fq", ["b", "a", "b"]), ("q", ["*:*"])] := by
  decide

end Form

/-! ### Messages -/

/-- The parameters for a request: those of its query in the window that is asked for, without any
format, and JSON as the format at the end. -/
def paramsOf (r : Request) : Params := r.windowed.toParams.filter (·.1 != "wt") ++ [("wt", "json")]

theorem valuesOf_paramsOf (r : Request) (name : String) :
    valuesOf (paramsOf r) name =
      if name = "wt" then ["json"] else valuesOf r.windowed.toParams name := by
  rw [paramsOf, valuesOf_append]
  split_ifs with hname
  · subst hname
    have hnone : valuesOf (r.windowed.toParams.filter (·.1 != "wt")) "wt" = [] := by
      simp [valuesOf, List.filter_filter]
    rw [hnone]
    rfl
  · have hkept : valuesOf (r.windowed.toParams.filter (·.1 != "wt")) name =
        valuesOf r.windowed.toParams name := by
      rw [valuesOf, List.filter_filter]
      congr 1
      apply List.filter_congr
      rintro p -
      by_cases hp : p.1 = name
      · simp [hp, hname]
      · simp [hp]
    have hlast : valuesOf [("wt", "json")] name = [] :=
      valuesOf_group_of_ne (Ne.symm hname) ["json"]
    rw [hkept, hlast, List.append_nil]

/-- A request can be sent if its window has numerals. -/
structure IsSendable (r : Request) : Prop where
  offset : (Numeral.text? r.windowed.offset).isSome = true
  limit : (Numeral.text? r.windowed.limit).isSome = true

/-- A message carries a request: the settings and the query decide the address, and the parameters
of the request stand behind it or, grouped, in a form. -/
inductive Carries (settings : Settings) (r : Request) : Message → Prop
  | get (method : settings.requestMethod ≠ "POST") :
      Carries settings r (.get (settings.requestUrl r.windowed.endpoint) (paramsOf r))
  | post (method : settings.requestMethod = "POST") :
      Carries settings r
        (.post (settings.requestUrl r.windowed.endpoint) (Form.ofParams (paramsOf r)))

theorem request_cases (q : Query) :
    (((Numeral.text? q.offset).isSome = true ∧ (Numeral.text? q.limit).isSome = true) ∧
        q.request = .ok q.toParams) ∨
      (¬ ((Numeral.text? q.offset).isSome = true ∧ (Numeral.text? q.limit).isSome = true) ∧
        q.request = .error .windowTooLong) := by
  unfold Query.request
  split_ifs with hwindow
  · exact .inl ⟨Bool.and_eq_true_iff.mp hwindow, rfl⟩
  · exact .inr ⟨fun h => hwindow (Bool.and_eq_true_iff.mpr h), rfl⟩

/-- There is a message for what can be sent, and only for this. -/
theorem ofRequest_cases (settings : Settings) (r : Request) :
    (¬ IsSendable r ∧ ∃ f, Message.ofRequest settings r = .error f) ∨
      (IsSendable r ∧ ∃ m, Message.ofRequest settings r = .ok m ∧ Carries settings r m) := by
  unfold Message.ofRequest
  dsimp only
  rcases request_cases r.windowed with ⟨⟨hoffset, hlimit⟩, hrequest⟩ | ⟨hwindow, hrequest⟩
  · rw [hrequest]
    refine .inr ⟨⟨hoffset, hlimit⟩, _, rfl, ?_⟩
    split_ifs with hmethod
    · exact .post hmethod
    · exact .get hmethod
  · rw [hrequest]
    exact .inl ⟨fun h => hwindow ⟨h.offset, h.limit⟩, _, rfl⟩

variable {σ : Type}

theorem fetch_of_error {settings : Settings} {r : Request} {f : Failure}
    (h : Message.ofRequest settings r = .error f) (send : Message → StateM σ Reply) (s : σ) :
    (source settings send).fetch r s = (.error f, s) := by
  unfold source
  dsimp only
  rw [h]
  rfl

theorem fetch_of_ok {settings : Settings} {r : Request} {m : Message}
    (h : Message.ofRequest settings r = .ok m) (send : Message → StateM σ Reply) (s : σ) :
    (source settings send).fetch r s = ((send m s).1.read 990 m r.windowed, (send m s).2) := by
  unfold source
  dsimp only
  rw [h]
  rfl

/-- A server that writes down the messages that it is sent. -/
def noted (send : Message → StateM σ Reply) (m : Message) : StateM (σ × List Message) Reply :=
  fun (s, sent) =>
    let (reply, s) := send m s
    (reply, s, sent ++ [m])

/-- The messages that a fetch sends. -/
def messages (settings : Settings) (send : Message → StateM σ Reply) (r : Request) (s : σ) :
    List Message :=
  ((source settings (noted send)).fetch r (s, [])).2.2

theorem messages_of_error {settings : Settings} {r : Request} {f : Failure}
    (h : Message.ofRequest settings r = .error f) (send : Message → StateM σ Reply) (s : σ) :
    messages settings send r s = [] := by
  rw [messages, fetch_of_error h]

theorem messages_of_ok {settings : Settings} {r : Request} {m : Message}
    (h : Message.ofRequest settings r = .ok m) (send : Message → StateM σ Reply) (s : σ) :
    messages settings send r s = [m] := by
  rw [messages, fetch_of_ok h]
  rfl

/-! ### Texts -/

/-- The parameters of a message as a form. -/
def Message.form : Message → Form
  | .get _ params => .ofParams params
  | .post _ form => form

/-- A client writes down the form of every message: it is what the text that is sent stands for. -/
def WritesForms (text : Message → List Char) : Prop :=
  ∀ m : Message, Form.Written m.form.toParams (text m)

theorem Carries.form_eq {settings : Settings} {r : Request} {m : Message}
    (h : Carries settings r m) : m.form = Form.ofParams (paramsOf r) := by
  cases h <;> rfl

/-- The parameters of a request are those of its query, apart from the format. They agree with the
form that is made of them, and a fetch sends just them: one message if they can be sent, whose text
is read as this form. -/
theorem fetch_sends_params {text : Message → List Char} (htext : WritesForms text)
    (settings : Settings) (r : Request) (send : Message → StateM σ Reply) (s : σ) :
    (∀ name, valuesOf (paramsOf r) name =
        if name = "wt" then ["json"] else valuesOf r.windowed.toParams name) ∧
      (Form.ofParams (paramsOf r)).Agrees (paramsOf r) ∧
      ((¬ IsSendable r ∧ messages settings send r s = []) ∨
        (IsSendable r ∧ ∃ m, messages settings send r s = [m] ∧ Carries settings r m ∧
          Form.pairs (text m) = (Form.ofParams (paramsOf r)).toParams)) := by
  refine ⟨valuesOf_paramsOf r, Form.agrees_ofParams _, ?_⟩
  rcases ofRequest_cases settings r with ⟨hsendable, f, hmade⟩ | ⟨hsendable, m, hmade, hcarries⟩
  · exact .inl ⟨hsendable, messages_of_error hmade send s⟩
  · refine .inr ⟨hsendable, m, messages_of_ok hmade send s, hcarries, ?_⟩
    rw [← hcarries.form_eq]
    exact Form.pairs_written (htext m)

/-- The text of a message with plus signs for blanks. -/
def plusText (m : Message) : List Char := Form.plusPairs m.form.toParams

theorem writesForms_plusText : WritesForms plusText := fun _ => Form.written_plusPairs _

/-- A query with parameters that repeat the names of its own parts, and another format. -/
def repetitive : Request where
  query := {
    filters := ["b:\"x y\"", "a:x", "a:x"]
    sort := [("s", .desc)]
    params := [("q", "+&=%"), ("fq", "p"), ("wt", "xml"), ("", "")] }
  offset := some (-5)

theorem repetitive_sends :
    IsSendable repetitive ∧
      ∃ m, messages { requestMethod := "POST" } (fun _ => pure (.lost "")) repetitive () = [m] ∧
        Form.pairs (plusText m) = [("q", "*:*"), ("q", "+&=%"), ("fq", "b:\"x y\""),
          ("fq", "a:x"), ("fq", "a:x"), ("fq", "p"), ("sort", "s desc"), ("start", "-5"),
          ("rows", "10"), ("", ""), ("wt", "json")] := by
  have hsendable : IsSendable repetitive := ⟨by decide +kernel, by decide +kernel⟩
  obtain ⟨-, -, hsent⟩ := fetch_sends_params writesForms_plusText { requestMethod := "POST" }
    repetitive (fun _ => pure (.lost "")) ()
  rcases hsent with ⟨hnot, -⟩ | ⟨-, m, hm, -, hread⟩
  · exact absurd hsendable hnot
  · exact ⟨hsendable, m, hm, hread.trans (by decide +kernel)⟩

end CriteriaSearch.Http
