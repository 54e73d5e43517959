import CriteriaSearch.Proofs.Criteria.Clauses
import CriteriaSearch.Proofs.Filter.Outcomes
import CriteriaSearch.Proofs.Query.Effects

/-!
# What the conditions of a filter text contribute

A filter text that is accepted has as many operands in each condition as its operator takes. In the
query of its entries every sort condition is one sort order. Every other condition is one filter in
its place, unless its operator has no clause for the value type or one of its operands cannot be
read as a value of this type: such a condition is left out.
-/

namespace CriteriaSearch

namespace Criterion

/-- The pairs of a value type and an operator that filter texts have and that have no clause: there
are no ranges of texts, and truth values are just compared. -/
def lacksClause : ValueType → Operator → Bool
  | .text, op => op == .between || op == .notBetween || op == .within
  | .number, _ => false
  | .dateTime, _ => false
  | .boolean, op => op != .equal && op != .notEqual
  | .other _, _ => true

/-- A condition with all its operands and an operator that is there for them. -/
structure IsComplete (c : Criterion) : Prop where
  nonempty : c.values ≠ []
  present : ∀ v ∈ c.values, v.isNull = false
  arity : ∀ n, c.operator.arity = some n → c.values.length = n
  paired : c.operator ≠ .sort →
    (ClauseRule.find? c.valueType c.operator).isSome = !lacksClause c.valueType c.operator

/-- Whether an operator other than sorting has a clause for the value type, and all operands can be
read as values of this type. -/
def counts (c : Criterion) : Bool :=
  c.operator != .sort && !lacksClause c.valueType c.operator
    && c.values.all (·.isReadable c.valueType)

theorem find?_sort (t : ValueType) : ClauseRule.find? t .sort = none := by
  cases t <;> rfl

theorem isSome_find? {c : Criterion} (hc : c.IsComplete) :
    (ClauseRule.find? c.valueType c.operator).isSome =
      (c.operator != .sort && !lacksClause c.valueType c.operator) := by
  by_cases hsort : c.operator = .sort
  · rw [hsort, find?_sort]
    rfl
  · rw [hc.paired hsort, bne_iff_ne.mpr hsort, Bool.true_and]

theorem isMeaningful_eq_counts {c : Criterion} (hc : c.IsComplete) :
    c.isMeaningful = c.counts := by
  unfold isMeaningful counts
  rw [← isSome_find? hc]
  cases hrule : ClauseRule.find? c.valueType c.operator with
  | none => rfl
  | some rule =>
      have harity : ∀ n, rule.form.arity = some n → c.values.length = n := by
        rw [ClauseRule.arity_form hrule]
        exact hc.arity
      obtain ⟨hfilled, hconsumed⟩ :=
        ClauseForm.consumed_of_arity hc.nonempty hc.present harity
      have hall : c.values.all (·.isReadable c.valueType) =
          (rule.form.consumed c.values).all fun p => p.1.isReadable c.valueType := by
        rw [← congrArg (List.all · _) hconsumed, List.all_map]
        rfl
      rw [hall, Option.any_some, hfilled, Option.isSome_some]

end Criterion

namespace Filter

/-! ### Entries of filter texts -/

theorem Operand.isNull_coerce {cs : List Char} {o : Operand} (h : ofText cs = .ok o)
    (t : ValueType) : (o.coerce t).isNull = false := by
  have houtcome := outcome_ofText cs
  rw [h] at houtcome
  unfold coerce
  split_ifs
  · cases houtcome <;> rfl
  · rfl

theorem arity_of_mem_keywords : ∀ p ∈ keywords,
    p.2.arity = if isMembership p.2 then none else some 2 := by decide

theorem arity_of_mem_symbols : ∀ p ∈ Condition.symbols, p.2.arity = some 1 := by decide

theorem paired_of_mem_keywords (t : ValueType) : ∀ p ∈ keywords,
    (ClauseRule.find? t p.2).isSome = !Criterion.lacksClause t p.2 := by
  cases t with
  | other name =>
      rintro ⟨word, operator⟩ -
      cases operator <;> rfl
  | _ => decide

theorem paired_of_mem_symbols (t : ValueType) : ∀ p ∈ Condition.symbols,
    (isTextual p.2 = true → t = .text) →
    (isOrdering p.2 = true → t = .number ∨ t = .dateTime) →
    (ClauseRule.find? t p.2).isSome = !Criterion.lacksClause t p.2 := by
  cases t with
  | other name =>
      rintro ⟨sign, operator⟩ - - -
      cases operator <;> rfl
  | _ => decide

/-- An entry has as many operands as its operator takes, and none of them is null. Of its value type
and its operator it is known whether they have a clause. -/
theorem entryOf_isComplete {rules : FieldRules} {how : Conjunction} {text : String}
    {condition : Condition} {c : Criterion} (hread : condition.Read)
    (h : entryOf rules how text condition = .ok c) : c.IsComplete := by
  have houtcome := outcome_entryOf rules how text condition
  rw [h] at houtcome
  cases houtcome with
  | sort check =>
      exact ⟨List.cons_ne_nil _ _, by simp [Value.isNull], fun n hn => Option.some.inj hn,
        fun hsort => absurd rfl hsort⟩
  | @list field keyword operands operator o rest check key items number =>
      have hkeyword := mem_of_lookup_eq_some key
      refine ⟨List.cons_ne_nil _ _, ?_, ?_, fun _ => paired_of_mem_keywords _ _ hkeyword⟩
      · intro v hv
        obtain ⟨o', ho', rfl⟩ := List.mem_map.mp hv
        obtain ⟨cs, -, hcs⟩ := exists_of_mem_of_mapM items ho'
        exact Operand.isNull_coerce hcs _
      · -- The operands of the other keywords are counted when the condition is read.
        intro n hn
        rw [arity_of_mem_keywords _ hkeyword] at hn
        rcases number with hmany | hone
        · simp [hmany] at hn
        · split_ifs at hn
          rw [List.length_map, List.length_cons, hone]
          exact Option.some.inj hn
  | @symbol field operand sign operator o t check read textual ordered =>
      cases hread with
      | symbol mem =>
          refine ⟨List.cons_ne_nil _ _, ?_, ?_,
            fun _ => paired_of_mem_symbols t _ mem textual ordered⟩
          · exact List.forall_mem_singleton.mpr (Operand.isNull_coerce read t)
          · intro n hn
            rw [arity_of_mem_symbols _ mem] at hn
            exact Option.some.inj hn

theorem entry_isComplete {rules : FieldRules} {part : Conjunction × List Char} {c : Criterion}
    (h : entry rules part = .ok c) : c.IsComplete := by
  unfold entry at h
  cases hcondition : Condition.ofText? part.2 with
  | none =>
      rw [hcondition] at h
      cases h
  | some condition =>
      rw [hcondition] at h
      exact entryOf_isComplete (Condition.read_of_ofText? hcondition) h

end Filter

namespace Criterion

/-! ### Contributions to a query -/

/-- The sort order of an entry, if it is one. -/
def order? (c : Criterion) : Option (String × Direction) :=
  if c.operator = .sort then some (c.field, .ofValue c.value) else none

theorem counts_of_sort {c : Criterion} (h : c.operator = .sort) : c.counts = false := by
  unfold counts
  rw [h]
  rfl

variable {c : Criterion} {change : Change}

theorem Makes.order?_eq (hplain : c.isControl = false) (h : c.Makes change) :
    change.order? = c.order? := by
  rcases h.of_plain hplain with ⟨hsort, rfl⟩ | ⟨hsort, clause, -, rfl⟩
  · exact (if_pos hsort).symm
  · rw [order?, if_neg hsort]
    cases clause <;> rfl

theorem counts_of_clause? (hc : c.IsComplete) {clause : Option String}
    (h : c.clause? = .ok clause) : c.counts = clause.isSome := by
  have hsettled := c.clause?_settled
  rw [isMeaningful_eq_counts hc, h] at hsettled
  cases hsettled with
  | unread _ hread => exact Bool.eq_false_iff.mpr hread
  | written a _ hread => exact hread

/-- An entry adds its clause if it counts, and no filter otherwise. -/
theorem Makes.filter?_spec (hplain : c.isControl = false) (hc : c.IsComplete)
    (h : c.Makes change) :
    (c.counts = true ∧ ∃ s, c.clause? = .ok (some s) ∧ change.filter? = some s) ∨
      (c.counts = false ∧ change.filter? = none) := by
  rcases h.of_plain hplain with ⟨hsort, rfl⟩ | ⟨-, clause, hclause, rfl⟩
  · exact .inr ⟨counts_of_sort hsort, rfl⟩
  · have hcounts := counts_of_clause? hc hclause
    cases clause with
    | none => exact .inr ⟨hcounts, rfl⟩
    | some s => exact .inl ⟨hcounts, s, hclause, rfl⟩

theorem filters_of_changes {entries : List Criterion} {changes : List Change}
    (hplain : ∀ c ∈ entries, c.isControl = false) (hcomplete : ∀ c ∈ entries, c.IsComplete)
    (h : entries.mapM Criterion.change = .ok changes) :
    (changes.filterMap Change.filter?).map (fun s => Except.ok (some s)) =
      (entries.filter counts).map clause? := by
  induction entries generalizing changes with
  | nil =>
      obtain rfl := Except.ok.inj h
      rfl
  | cons c entries ih =>
      obtain ⟨made, rest, hmade, hrest, rfl⟩ := mapM_cons_eq_ok_iff.mp h
      obtain ⟨hc, hentries⟩ := List.forall_mem_cons.mp hplain
      obtain ⟨hcc, hcentries⟩ := List.forall_mem_cons.mp hcomplete
      have htail := ih hentries hcentries hrest
      rcases (makes_of_change hmade).filter?_spec hc hcc with
        ⟨hcounts, s, hclause, hs⟩ | ⟨hcounts, hs⟩
      · rw [List.filterMap_cons_some hs, List.filter_cons_of_pos hcounts, List.map_cons,
          List.map_cons, htail, hclause]
      · rw [List.filterMap_cons_none hs, List.filter_cons_of_neg (by simp [hcounts]), htail]

end Criterion

namespace Query

/-- In the query of an accepted filter text without control fields, the sort conditions are the sort
orders, and the conditions that count are the filters, both in order. -/
theorem compile_addFilter {settings : Settings} {rules : FieldRules} {text : String} {c : Criteria}
    {q : Query} (haccepted : ({} : Criteria).addFilter rules text = (c, none))
    (hplain : ∀ entry ∈ c.entries, entry.isControl = false)
    (hcompile : compile settings c = .ok q) :
    q.sort = c.entries.filterMap Criterion.order? ∧
      q.filters.map (fun s => Except.ok (some s)) =
        (c.entries.filter Criterion.counts).map Criterion.clause? := by
  obtain ⟨endpoint, changes, -, hchanges, rfl⟩ := compile_eq_ok_iff.mp hcompile
  have hentries : Filter.entries rules (Filter.split text.toList) = (c.entries, none) := by
    obtain ⟨rfl, hnone⟩ := Prod.mk.inj haccepted
    exact Prod.ext rfl hnone
  have hcomplete : ∀ entry ∈ c.entries, entry.IsComplete := by
    intro entry hentry
    obtain ⟨part, -, hpart⟩ :=
      exists_of_mem_of_mapM (Filter.mapM_entry_of_accepted hentries) hentry
    exact Filter.entry_isComplete hpart
  have hsteady : ∀ change ∈ changes, change.isRestart = false := by
    intro change hchange
    obtain ⟨entry, hentry, hmade⟩ := exists_of_mem_of_mapM hchanges hchange
    have hurl : entry.field ≠ Control.url := Criterion.field_ne (hplain entry hentry) (by decide)
    exact Bool.eq_false_iff.mpr (mt (Criterion.makes_of_change hmade).isRestart_iff.mp hurl)
  rw [withEcho_sort, withEcho_filters, Change.foldl_sort hsteady, Change.foldl_filters hsteady]
  refine ⟨?_, ?_⟩
  · exact filterMap_of_mapM
      (fun entry hentry _ hmade =>
        (Criterion.makes_of_change hmade).order?_eq (hplain entry hentry)) hchanges
  · exact Criterion.filters_of_changes hplain hcomplete hchanges

/-- Truth values have no clause for a list, so nothing is asked for. -/
theorem flags_lost :
    (({} : Criteria).addFilter {} "flag in (true, false)").2 = none ∧
      (({} : Criteria).addFilter {} "flag in (true, false)").1.entries.map
          (fun c => (c.field, c.isControl, c.operator)) = [("flag", false, .isIn)] ∧
      compile {} (({} : Criteria).addFilter {} "flag in (true, false)").1 = .ok {} := by
  decide +kernel

/-- Conditions that count, before and after some that do not. -/
def assorted : Criteria × Option FilterError :=
  ({} : Criteria).addFilter {} "price<20,flag in (true),sort name desc,size in (1, big) or kind:a"

theorem assorted_compile : assorted.2 = none ∧
    compile {} assorted.1 =
      .ok { filters := ["price:[* TO 19]", "kind:a"], sort := [("name", .desc)] } ∧
    assorted.1.entries.filterMap Criterion.order? = [("name", .desc)] ∧
    (assorted.1.entries.filter Criterion.counts).map Criterion.clause? =
      [.ok (some "price:[* TO 19]"), .ok (some "kind:a")] := by
  have hnone : assorted.2 = none := by decide +kernel
  have haccepted : ({} : Criteria).addFilter {}
      "price<20,flag in (true),sort name desc,size in (1, big) or kind:a" = (assorted.1, none) := by
    rw [← hnone]
    exact (Prod.eta assorted).symm
  have hplain : ∀ entry ∈ assorted.1.entries, entry.isControl = false := by decide +kernel
  have hcompile : compile {} assorted.1 =
      .ok { filters := ["price:[* TO 19]", "kind:a"], sort := [("name", .desc)] } := by
    decide +kernel
  obtain ⟨hsort, hfilters⟩ := compile_addFilter haccepted hplain hcompile
  exact ⟨hnone, hcompile, hsort.symm, hfilters.symm⟩

end Query

end CriteriaSearch
