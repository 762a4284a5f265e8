import Criteria.Proofs.Wire.Origins
import Criteria.Proofs.Wire.Query
import Criteria.Validation

/-!
# Entries and queries

An entry and a pair of a query string may hold the same text for the same field. The entry
names its operator, the pair leaves it to the first one of the field; where these are the same
the two should give the same expression. They do if the operator takes one value. If it takes
several, the entry is split into a list and the pair is not (`Expression.asText`), and then
the list that the operator asks for is missing.
-/

namespace Criteria

def Expression.asText (e : Expression) : Expression :=
  ⟨⟨e.field, e.operator, ⟨.text e.value.wire, e.value.wire, e.value.wire⟩⟩, e.connector⟩

namespace Schema

def UsesFirst (s : Schema) (e : Expression) : Prop :=
  ∃ f op, s.field? e.field.key = some f ∧ f.operators.head? = some op ∧ op.key = e.operator.key

inductive ReadsText (s : Schema) : Condition → Prop
  | one (h : s.Resolves ⟨f.ref, op.ref, ⟨.text text, text, text⟩⟩ f op)
      (hm : op.multiValue = none) : ReadsText s ⟨f.ref, op.ref, ⟨.text text, text, text⟩⟩
  | several (h : s.Resolves ⟨f.ref, op.ref, ⟨.list items, display, text⟩⟩ f op)
      (hm : op.multiValue ≠ none) : ReadsText s ⟨f.ref, op.ref, ⟨.list items, display, text⟩⟩

end Schema

section
variable {s : Schema} {options : RestoreOptions} {data : List Data} {item : Data} {f : Field}
  {op : Operator} {e : Expression} {es : Filter} {c : Condition} {text : String} {v : Value}

-- ---------------------------------------------------------------------------
-- What an entry gives
-- ---------------------------------------------------------------------------

theorem Schema.Reads.readsText (h : s.Reads (.text text) c) : s.ReadsText c := by
  cases h with
  | intro hr hv =>
    rcases Entry.ownValue_text hv with ⟨hm, rfl⟩ | ⟨hm, items, display, rfl⟩
    · exact .one hr hm
    · exact .several hr hm

theorem readsText_of_restoreFilter (hs : s.restore = none) (hf : ∀ f ∈ s.fields, f.restore = none)
    (ht : ∀ item ∈ data, Entry.HoldsText item)
    (h : s.restoreFilter (.list data) options = .ok r) :
    ∀ e ∈ r.expressions, s.ReadsText e.condition := by
  intro e he
  obtain ⟨item, hitem, stored, hstored, hreads⟩ := restoreFilter_origin hs hf h he
  obtain ⟨text, rfl⟩ := ht item hitem stored hstored
  exact hreads.readsText

-- ---------------------------------------------------------------------------
-- What a query gives
-- ---------------------------------------------------------------------------

namespace Schema

theorem UsesFirst.head? (hu : s.UsesFirst e) (h : s.Resolves e.condition f op) :
    f.operators.head? = some op := by
  obtain ⟨f', op', hfield, hfirst, hkey⟩ := hu
  obtain rfl : f' = f := Option.some.inj (hfield.symm.trans h.field)
  obtain ⟨rest, hops⟩ := List.head?_eq_some_iff.mp hfirst
  have hop : f'.operator? op'.key = some op' := by simp [Field.operator?, hops]
  obtain rfl : op' = op := Option.some.inj (hop.symm.trans (hkey ▸ h.operator))
  exact hfirst

theorem guess?_of_resolves (hu : s.UsesFirst e) (h : s.Resolves e.condition f op) :
    s.guess? e = some ⟨f.ref, op.ref, ⟨.text e.value.wire, e.value.wire, e.value.wire⟩⟩ := by
  refine Option.bind_eq_some_iff.mpr ⟨f, h.field, ?_⟩
  exact Option.bind_eq_some_iff.mpr ⟨op, hu.head? h, rfl⟩

theorem ReadsText.guess? (h : s.ReadsText e.condition) (hu : s.UsesFirst e) :
    s.guess? e = some e.asText.condition := by
  obtain ⟨condition, connector⟩ := e
  cases h with
  | one h => exact guess?_of_resolves hu h
  | several h => exact guess?_of_resolves hu h

theorem ReadsText.asText_eq_iff (h : s.ReadsText e.condition) :
    e.asText = e ↔ ¬ s.TakesSeveral e := by
  obtain ⟨condition, connector⟩ := e
  cases h with
  | one h hm =>
    refine iff_of_true rfl ?_
    rintro ⟨f', op', h', hm'⟩
    obtain ⟨rfl, rfl⟩ := h.unique h'
    exact hm' hm
  | several h hm =>
    refine iff_of_false (fun heq => ?_) (not_not_intro ⟨_, _, h, hm⟩)
    cases congrArg (·.value.raw) heq

end Schema

theorem valueProblem?_text (hm : op.multiValue ≠ none) :
    valueProblem? f op (.text text) = none ↔
      f.requiresValue op = false ∧ Text.isAllBlank text.toList = true := by
  obtain ⟨form, hform⟩ := Option.ne_none_iff_exists'.mp hm
  cases hr : f.requiresValue op <;> cases hb : Text.isAllBlank text.toList <;>
    simp [valueProblem?, hform, hr, hb, Data.isEmptyValue, formProblem?, Data.sequence?]

namespace Query

theorem guessed_eq_map (h : ∀ e ∈ es, s.guess? e = some e.asText.condition) :
    es.filterMap (guessed? s) = es.map fun e => ⟨e.asText.condition, some Connector.implied⟩ := by
  induction es with
  | nil => rfl
  | cons e es ih =>
    rw [List.forall_mem_cons] at h
    have he : guessed? s e = some ⟨e.asText.condition, some Connector.implied⟩ := by
      simp [guessed?, h.1]
    rw [List.filterMap_cons_some he, ih h.2, List.map_cons]

theorem refusals_eq_nil (h : ∀ e ∈ es, s.guess? e = some e.asText.condition) (i : Nat) :
    refusals s i es = [] := by
  refine List.map_eq_nil_iff.mpr (List.filter_eq_nil_iff.mpr fun p hp => ?_)
  simp [h p.1 (List.fst_mem_of_mem_zipIdx hp)]

end Query

theorem joined_map_asText (hl : Filter.Linked es)
    (hc : ∀ e ∈ es, ∀ c, e.connector = some c → c = Connector.implied) :
    Filter.joined (es.map fun e => ⟨e.asText.condition, some Connector.implied⟩) =
      es.map Expression.asText := by
  induction es with
  | nil => rfl
  | cons e es ih =>
    rw [List.forall_mem_cons] at hc
    by_cases hes : es = []
    · have he : e.connector = none := Filter.linked_singleton.mp (hes ▸ hl)
      simp [hes, Filter.joined, Expression.asText, he, Expression.withConnector]
    · obtain ⟨hn, hrest⟩ := (Filter.linked_cons hes).mp hl
      obtain ⟨c, he⟩ := Option.ne_none_iff_exists'.mp hn
      obtain rfl := hc.1 c he
      rw [List.map_cons, List.map_cons, Filter.joined_cons (by simpa using hes), ih hrest hc.2]
      simp [Expression.asText, he, Expression.withConnector]

theorem restoreQuery_of_guess (h : ∀ e ∈ es, s.guess? e = some e.asText.condition)
    (hl : Filter.Linked es) (hc : ∀ e ∈ es, ∀ c, e.connector = some c → c = Connector.implied) :
    (s.restoreQuery es.toQuery).errors = [] ∧
      (s.restoreQuery es.toQuery).expressions = es.map Expression.asText := by
  have hback : s.restoreQuery es.toQuery =
      .ofParts (es.filterMap (Query.guessed? s)) (Query.refusals s 0 es) := by
    simpa using Query.restoreQuery_eq s es 0
  rw [hback, Query.guessed_eq_map h, Query.refusals_eq_nil h]
  exact ⟨rfl, joined_map_asText hl hc⟩

theorem restoreQuery_asText (h : ∀ e ∈ es, s.ReadsText e.condition)
    (hu : ∀ e ∈ es, s.UsesFirst e) (hl : Filter.Linked es)
    (hc : ∀ e ∈ es, ∀ c, e.connector = some c → c = Connector.implied) :
    (s.restoreQuery es.toQuery).errors = [] ∧
      (s.restoreQuery es.toQuery).expressions = es.map Expression.asText :=
  restoreQuery_of_guess (fun e he => (h e he).guess? (hu e he)) hl hc

/-- A filter that was restored from texts and uses first operators comes back from its query
string without an error and with each text for the value. So it comes back as it was exactly if
no operator takes several values. For one that does, the text is not the list that is asked
for; it passes the check only if no value is needed and the text is blank. -/
theorem restoreQuery_restored (hs : s.restore = none) (hf : ∀ f ∈ s.fields, f.restore = none)
    (ht : ∀ item ∈ data, Entry.HoldsText item)
    (h : s.restoreFilter (.list data) options = .ok r)
    (hu : ∀ e ∈ r.expressions, s.UsesFirst e)
    (hc : ∀ e ∈ r.expressions, ∀ c, e.connector = some c → c = Connector.implied) :
    (s.restoreQuery r.expressions.toQuery).errors = [] ∧
      (s.restoreQuery r.expressions.toQuery).expressions = r.expressions.map Expression.asText ∧
      ((s.restoreQuery r.expressions.toQuery).expressions = r.expressions ↔
        ∀ e ∈ r.expressions, ¬ s.TakesSeveral e) ∧
      ∀ e ∈ r.expressions, ∀ f op, s.Resolves e.condition f op → op.multiValue ≠ none →
        (valueProblem? f op e.asText.value.raw = none ↔
          f.requiresValue op = false ∧ Text.isAllBlank e.value.wire.toList = true) := by
  have hreads : ∀ e ∈ r.expressions, s.ReadsText e.condition :=
    readsText_of_restoreFilter hs hf ht h
  have hlinked : Filter.Linked r.expressions := by
    obtain ⟨es, errors, -, rfl⟩ := (restoreFilter_ok_iff hs).mp h
    exact Filter.joined_linked
  obtain ⟨herrors, hback⟩ := restoreQuery_asText hreads hu hlinked hc
  refine ⟨herrors, hback, ?_, fun e he f op hr hm => valueProblem?_text hm⟩
  have hsame : r.expressions.map Expression.asText = r.expressions ↔
      ∀ e ∈ r.expressions, e.asText = e := by
    conv_lhs => rhs; rw [← List.map_id r.expressions]
    exact List.map_inj_left
  rw [hback, hsame]
  exact forall₂_congr fun e he => (hreads e he).asText_eq_iff

/-- A text that comes back as it was, and an empty list that comes back as its brackets. -/
theorem restoreQuery_restored_brackets :
    let isOp : Operator := { key := "is", label := "is" }
    let inOp : Operator :=
      { key := "in", label := "in", multiValue := some { count := .number (-1) } }
    let s : Schema :=
      { fields :=
          [{ key := "colour", label := "Colour", operators := [isOp] },
            { key := "tags", label := "Tags", operators := [inOp, isOp] }] }
    let entry (field operator value : String) (connector : List (Data × Data)) : Data :=
      .record ([(.text "field", .text field), (.text "operator", .text operator),
        (.text "value", .text value)] ++ connector)
    let data : List Data :=
      [entry "colour" "is" "red & blue" [(.text "connector", .text "AND")],
        entry "tags" "in" "[]" []]
    ∃ r, s.restoreFilter (.list data) = .ok r ∧
      r.expressions.map (·.value.display) = ["red & blue", ""] ∧
      (s.restoreQuery r.expressions.toQuery).errors = [] ∧
      (s.restoreQuery r.expressions.toQuery).expressions.map (·.value.display) =
        ["red & blue", "[]"] ∧
      (s.restoreQuery r.expressions.toQuery).expressions ≠ r.expressions := by
  intro isOp inOp s entry data
  let colour : Expression :=
    ⟨⟨{ key := "colour", label := "Colour" }, isOp.ref,
      ⟨.text "red & blue", "red & blue", "red & blue"⟩⟩, some "AND"⟩
  let tags : Expression :=
    ⟨⟨{ key := "tags", label := "Tags" }, inOp.ref, ⟨.list [], "", "[]"⟩⟩, none⟩
  have h : s.restoreFilter (.list data) = .ok { expressions := [colour, tags] } := rfl
  have hf : ∀ f ∈ s.fields, f.restore = none := by simp [s]
  have ht : ∀ item ∈ data, Entry.HoldsText item := by
    simp [data, entry, Entry.HoldsText, Entry.stored?, Data.lookup]
  have hu : ∀ e ∈ [colour, tags], s.UsesFirst e := by
    simp only [List.forall_mem_cons]
    exact ⟨⟨_, _, rfl, rfl, rfl⟩, ⟨_, _, rfl, rfl, rfl⟩, by simp⟩
  have hc : ∀ e ∈ [colour, tags], ∀ c, e.connector = some c → c = Connector.implied := by
    simp only [List.forall_mem_cons]
    exact ⟨fun c hc => (Option.some.inj hc).symm, by simp [tags], by simp⟩
  obtain ⟨herrors, hback, hsame, -⟩ := restoreQuery_restored rfl hf ht h hu hc
  refine ⟨_, h, rfl, herrors, by rw [hback]; rfl, fun heq => ?_⟩
  exact hsame.mp heq tags (by simp) ⟨_, inOp, ⟨rfl, rfl⟩, by simp [inOp]⟩

/-- A list of two values is restored from its text by an operator that is the first one of its
field and passes the check. Read back from its query string it is a text and does not pass. -/
theorem restoreQuery_loses_list :
    let inOp : Operator :=
      { key := "in", label := "in", multiValue := some { count := .number (-1) } }
    let s : Schema := { fields := [{ key := "tags", label := "Tags", operators := [inOp] }] }
    let item : Data :=
      .record [(.text "field", .text "tags"), (.text "operator", .text "in"),
        (.text "value", .text "red,blue")]
    ∃ r, s.restoreFilter (.list [item]) = .ok r ∧ r.errors = [] ∧
      (∀ e ∈ r.expressions, s.UsesFirst e) ∧ r.expressions.length = 1 ∧
      (∃ report, s.validate r.expressions = .ok report ∧ report.isValid = true) ∧
      (s.restoreQuery r.expressions.toQuery).expressions ≠ r.expressions ∧
      ∃ report, s.validate (s.restoreQuery r.expressions.toQuery).expressions = .ok report ∧
        report.isValid = false := by
  intro inOp s item
  let field : Field := { key := "tags", label := "Tags", operators := [inOp] }
  let e : Expression :=
    ⟨⟨field.ref, inOp.ref, ⟨.list [.text "red", .text "blue"], "red,blue", "red,blue"⟩⟩, none⟩
  have hsplit : Wire.splitValues ",".toList "red,blue".toList = ["red".toList, "blue".toList] := by
    decide +kernel
  have hvalue : Entry.ownValue field inOp (.text "red,blue") = .ok e.value := by
    simp only [Entry.ownValue, inOp, Wire.multiValue, Wire.parts?, hsplit]
    rfl
  have hitem : Entry.Restored s {} item e :=
    .intro rfl rfl (map_ok.mpr ⟨e.value, hvalue, rfl⟩)
  have hfilter : s.restoreFilter (.list [item]) = .ok (.ofParts [e] []) :=
    restoreFilter_keep rfl (Entry.restore_ok_iff.mpr hitem)
  have hr : s.ReadsText e.condition := .several ⟨rfl, rfl⟩ (by simp [inOp])
  have hu : s.UsesFirst e := ⟨_, _, rfl, rfl, rfl⟩
  have hback : (s.restoreQuery (Filter.toQuery [e])).expressions = [e.asText] :=
    (restoreQuery_asText (List.forall_mem_singleton.mpr hr) (List.forall_mem_singleton.mpr hu)
      (Filter.linked_singleton.mpr rfl) (List.forall_mem_singleton.mpr nofun)).2
  have hlost : (s.restoreQuery (Filter.toQuery [e])).expressions ≠ [e] := by
    rw [hback]
    intro heq
    cases congrArg (·.map (·.value.raw)) heq
  have hinvalid : ∃ report, s.validate [e.asText] = .ok report ∧ report.isValid = false :=
    ⟨_, rfl, rfl⟩
  refine ⟨_, hfilter, rfl, List.forall_mem_singleton.mpr hu, rfl, ⟨_, rfl, rfl⟩, hlost, ?_⟩
  rw [← hback] at hinvalid
  exact hinvalid

end

end Criteria
