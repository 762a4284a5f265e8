import Criteria.Proofs.Wire.Origins
import Criteria.Proofs.Wire.RoundTrip

/-!
# Stored forms settle

An entry may hold any value, but only a text is stored for what it is restored as. From then on
nothing changes: the texts are restored without an error, with the same fields, operators and
connectors, and the same texts are stored for them again. Raw values may still change once, as a
text is split and a number is not. Where all values were texts from the start, they do not.
-/

namespace Criteria

structure Schema.Verbatim (s : Schema) : Prop where
  store : s.store = none
  restore : s.restore = none
  fieldStore : ∀ f ∈ s.fields, f.store = none
  fieldRestore : ∀ f ∈ s.fields, f.restore = none

def Schema.SplitsByText (s : Schema) : Prop :=
  ∀ f ∈ s.fields, ∀ op ∈ f.operators, ∀ form, op.multiValue = some form →
    ∃ separator, form.separator = .text separator

namespace Expression

def written (e : Expression) : FieldRef × OperatorRef × String × Option Connector :=
  (e.field, e.operator, e.value.wire, e.connector)

def entry (e : Expression) : Data :=
  e.record (.text e.value.wire)

end Expression

/-- An expression as it is restored from the text that is stored for another one. -/
structure Schema.Rereads (s : Schema) (e e' : Expression) : Prop where
  reads : s.Reads (.text e.value.wire) e'.condition
  written : e'.written = e.written

section
variable {s : Schema} {storing : StoreOptions} {options : RestoreOptions} {data stored : Data}
  {f : Field} {op : Operator} {v : Value} {e e' : Expression} {es es' : Filter} {c : Condition}
  {r : Restoration}

-- ---------------------------------------------------------------------------
-- Storing
-- ---------------------------------------------------------------------------

theorem Expression.entry_congr (h : e'.written = e.written) : e'.entry = e.entry := by
  simp only [Expression.written, Prod.mk.injEq] at h
  obtain ⟨hfield, hoperator, hwire, hconnector⟩ := h
  simp only [Expression.entry, Expression.record, hfield, hoperator, hwire, hconnector]

theorem storedValue_of_unhooked (h : (s.field? e.field.key).bind (·.store) = none) :
    e.storedValue (some s) storing = .ok (.text e.value.wire) := by
  unfold Expression.storedValue
  split
  next schema hs _ =>
    obtain rfl := Option.some.inj hs
    rw [h]
  · rfl

theorem storedValue_verbatim (hv : s.Verbatim) :
    e.storedValue (some s) storing = .ok (.text e.value.wire) := by
  refine storedValue_of_unhooked ?_
  cases hf : s.field? e.field.key with
  | none => rfl
  | some f => exact hv.fieldStore f (List.mem_of_find?_eq_some hf)

theorem store_verbatim (hv : s.Verbatim) :
    es.store (some s) storing = .ok (es.map Expression.entry) := by
  have heach : es.storeEach (some s) storing = .ok (es.map Expression.entry) := by
    induction es with
    | nil => rfl
    | cons e es ih =>
      exact bind_ok.mpr ⟨_, storedValue_verbatim hv, bind_ok.mpr ⟨_, ih, rfl⟩⟩
  simp [Filter.store, hv.store, heach]

-- ---------------------------------------------------------------------------
-- Reading a stored text
-- ---------------------------------------------------------------------------

namespace Schema

theorem Rereads.of_ownValue (hr : s.Resolves e.condition f op) (hfield : f.ref = e.field)
    (hoperator : op.ref = e.operator) (hv : Entry.ownValue f op (.text e.value.wire) = .ok v) :
    s.Rereads e ⟨⟨f.ref, op.ref, v⟩, e.connector⟩ := by
  have hwire : v.wire = e.value.wire := by
    rcases Entry.ownValue_text hv with ⟨-, rfl⟩ | ⟨-, items, display, rfl⟩ <;> rfl
  have hr' : s.Resolves ⟨f.ref, op.ref, v⟩ f op := by
    refine ⟨?_, ?_⟩
    · rw [hfield]
      exact hr.field
    · rw [hoperator]
      exact hr.operator
  refine ⟨.intro hr' hv, ?_⟩
  simp only [Expression.written, Expression.field, Expression.operator, Expression.value,
    hfield, hoperator, hwire]

theorem Resolves.reread (hr : s.Resolves e.condition f op) (hfield : f.ref = e.field)
    (hoperator : op.ref = e.operator) (hsep : s.SplitsByText) : ∃ e', s.Rereads e e' := by
  rcases answers_or_error (Entry.ownValue f op (.text e.value.wire)) with ⟨v, hv⟩ | ⟨fault, hv⟩
  · exact ⟨_, Rereads.of_ownValue hr hfield hoperator hv⟩
  · -- Only a value that no text separates cannot be read.
    obtain ⟨-, form, hm, htext, -⟩ := (Entry.ownValue_error_iff Data.not_oversized_text).mp hv
    obtain ⟨separator, hs⟩ := hsep f (List.mem_of_find?_eq_some hr.field) op
      (List.mem_of_find?_eq_some hr.operator) form hm
    rw [hs] at htext
    cases htext

theorem Reads.reread (h : s.Reads stored e.condition) (hsep : s.SplitsByText) :
    ∃ e', s.Rereads e e' := by
  obtain ⟨f, op, hr, hfield, hoperator, -⟩ := h.resolves
  exact hr.reread hfield hoperator hsep

theorem Reads.wire_eq (h : s.Reads (.text text) c) : c.value.wire = text := by
  obtain ⟨f, op, -, -, -, hv⟩ := h.resolves
  rcases Entry.ownValue_text hv with ⟨-, hv⟩ | ⟨-, items, display, hv⟩ <;> rw [hv]

theorem Rereads.eq_of_text (h : s.Rereads e e') (ht : s.Reads (.text text) e.condition) :
    e' = e := by
  obtain rfl : e.value.wire = text := ht.wire_eq
  have hw := h.written
  simp only [Expression.written, Prod.mk.injEq] at hw
  obtain ⟨hfield, hoperator, -, hconnector⟩ := hw
  have hc : e'.condition = e.condition :=
    ht.unique h.reads (congrArg FieldRef.key hfield) (congrArg OperatorRef.key hoperator)
  obtain ⟨condition, connector⟩ := e
  obtain ⟨condition', connector'⟩ := e'
  obtain rfl : condition' = condition := hc
  obtain rfl : connector' = connector := hconnector
  rfl

end Schema

theorem Schema.Rereads.restored (h : s.Rereads e e') (hv : s.Verbatim)
    (hc : ∀ x, e.connector = some x → x ∈ Connector.all) :
    Entry.Restored s options e.entry e' := by
  obtain ⟨f, op, hr, hfield, hoperator, hvalue⟩ := h.reads.resolves
  have hw := h.written
  simp only [Expression.written, Prod.mk.injEq] at hw
  obtain ⟨hfield', hoperator', -, hconnector⟩ := hw
  have hf : s.field? e.field.key = some f := hfield' ▸ hr.field
  have ho : f.operator? e.operator.key = some op := hoperator' ▸ hr.operator
  obtain ⟨entries, hrecord, hlocate, hlookup⟩ := locate_record (.text e.value.wire) hf ho
  have hhook : (if options.fieldHooks then f.restore else none) = none := by
    simp [hv.fieldRestore f (List.mem_of_find?_eq_some hf)]
  have hrestored : Entry.restoredValue options f op (.text e.value.wire) = .ok (.ok e'.value) := by
    simp only [Entry.restoredValue, hhook]
    exact map_ok.mpr ⟨_, hvalue, rfl⟩
  have hall : Entry.Restored s options (.record entries)
      ⟨⟨f.ref, op.ref, e'.value⟩, e.connector⟩ :=
    .intro hlocate (connector_of_lookup hlookup hc) hrestored
  rw [hfield, hoperator, ← hconnector] at hall
  rw [Expression.entry, hrecord]
  exact hall

-- ---------------------------------------------------------------------------
-- Filters
-- ---------------------------------------------------------------------------

theorem rereads_all (h : ∀ e ∈ es, ∃ e', s.Rereads e e') :
    ∃ es', List.Forall₂ s.Rereads es es' := by
  induction es with
  | nil => exact ⟨[], .nil⟩
  | cons e es ih =>
    obtain ⟨⟨e', he'⟩, hes⟩ := List.forall_mem_cons.mp h
    obtain ⟨es', hes'⟩ := ih hes
    exact ⟨e' :: es', .cons he' hes'⟩

theorem map_written_rereads (h : List.Forall₂ s.Rereads es es') :
    es'.map Expression.written = es.map Expression.written := by
  induction h with
  | nil => rfl
  | cons he _ ih => rw [List.map_cons, List.map_cons, he.written, ih]

theorem map_entry_rereads (h : List.Forall₂ s.Rereads es es') :
    es'.map Expression.entry = es.map Expression.entry := by
  induction h with
  | nil => rfl
  | cons he _ ih => rw [List.map_cons, List.map_cons, Expression.entry_congr he.written, ih]

theorem connectors_rereads (h : List.Forall₂ s.Rereads es es') :
    Filter.connectors es' = Filter.connectors es := by
  have hw := congrArg (List.map (·.2.2.2)) (map_written_rereads h)
  rw [List.map_map, List.map_map] at hw
  exact hw

theorem eq_of_rereads_text (h : List.Forall₂ s.Rereads es es')
    (ht : ∀ e ∈ es, ∃ text, s.Reads (.text text) e.condition) : es' = es := by
  induction h with
  | nil => rfl
  | cons he _ ih =>
    obtain ⟨⟨text, hr⟩, hrest⟩ := List.forall_mem_cons.mp ht
    rw [he.eq_of_text hr, ih hrest]

theorem restores_rereads (h : List.Forall₂ s.Rereads es es') (hv : s.Verbatim)
    (hc : ∀ e ∈ es, ∀ x, e.connector = some x → x ∈ Connector.all) (i : Nat) :
    Entry.Restores s options i (es.map Expression.entry) es' [] := by
  induction h generalizing i with
  | nil => exact .nil
  | cons he _ ih =>
    rw [List.forall_mem_cons] at hc
    exact .keep (Entry.restore_ok_iff.mpr (he.restored hv hc.1)) (ih hc.2 (i + 1))

theorem restoreFilter_rereads (h : List.Forall₂ s.Rereads es es') (hv : s.Verbatim)
    (hl : Filter.Linked es)
    (hc : ∀ e ∈ es, ∀ x, e.connector = some x → x ∈ Connector.all) :
    ∃ back, s.restoreFilter (.list (es.map Expression.entry)) options = .ok back ∧
      back.errors = [] ∧ back.expressions = es' := by
  have hl' : Filter.Linked es' := hl.congr (connectors_rereads h)
  refine ⟨.ofParts es' [], (restoreFilter_ok_iff hv.restore).mpr ?_, rfl, ?_⟩
  · exact ⟨es', [], restores_rereads h hv hc 0, rfl⟩
  · exact Filter.joined_of_linked hl'

/-- After one round through the stored form nothing of it changes any more, and nothing at all
changes if the stored values were texts. -/
theorem restoreFilter_settles (hv : s.Verbatim) (hsep : s.SplitsByText)
    (h : s.restoreFilter data options = .ok r) :
    ∃ stored back, r.expressions.store (some s) storing = .ok stored ∧
      s.restoreFilter (.list stored) options = .ok back ∧ back.errors = [] ∧
      back.expressions.map Expression.written = r.expressions.map Expression.written ∧
      back.expressions.store (some s) storing = .ok stored ∧
      ((∀ item ∈ data.entries, Entry.HoldsText item) → back.expressions = r.expressions) := by
  have hread : ∀ e ∈ r.expressions, ∃ item ∈ data.entries, s.Origin item e :=
    fun e he => restoreFilter_origin hv.restore hv.fieldRestore h he
  have hreread : ∀ e ∈ r.expressions, ∃ e', s.Rereads e e' := by
    intro e he
    obtain ⟨item, -, value, -, hvalue⟩ := hread e he
    exact hvalue.reread hsep
  obtain ⟨es', hes'⟩ := rereads_all hreread
  have hrestored : ∃ back, s.restoreFilter (.list (r.expressions.map Expression.entry)) options =
      .ok back ∧ back.errors = [] ∧ back.expressions = es' :=
    restoreFilter_rereads hes' hv (restoreFilter_linked h) (restoreFilter_known hv.restore h)
  obtain ⟨back, hback, herrors, hexpressions⟩ := hrestored
  refine ⟨_, back, store_verbatim hv, hback, herrors, ?_, ?_, fun ht => ?_⟩
  · rw [hexpressions, map_written_rereads hes']
  · rw [hexpressions, store_verbatim hv, map_entry_rereads hes']
  · rw [hexpressions]
    refine eq_of_rereads_text hes' fun e he => ?_
    obtain ⟨item, hitem, value, hvalue, hreads⟩ := hread e he
    obtain ⟨text, rfl⟩ := ht item hitem value hvalue
    exact ⟨text, hreads⟩

/-- A range with an end that is no number, a list, and an entry without a value between them. -/
theorem restoreFilter_settles_range :
    let betweenOp : Operator :=
      { key := "between", label := "between"
        multiValue := some { count := .number 2, separator := .text "and" } }
    let inOp : Operator :=
      { key := "in", label := "in"
        multiValue := some { count := .number (-1), separator := .text ";" } }
    let s : Schema :=
      { fields :=
          [{ key := "size", label := "Size", type := "number", operators := [betweenOp] },
            { key := "tags", label := "Tags", operators := [inOp] }] }
    let entry (field operator : String) (rest : List (Data × Data)) : Data :=
      .record ([(.text "field", .text field), (.text "operator", .text operator)] ++ rest)
    let data : Data := .list
      [entry "size" "between" [(.text "value", .text "(1 AND nan)")],
        entry "tags" "in" [], entry "tags" "in" [(.text "value", .text "red; blue")]]
    ∃ r stored back, s.restoreFilter data = .ok r ∧
      r.expressions.map (·.value.display) = ["1 and nan", "red;blue"] ∧
      r.expressions.store (some s) = .ok stored ∧ s.restoreFilter (.list stored) = .ok back ∧
      back.errors = [] ∧ back.expressions = r.expressions := by
  intro betweenOp inOp s entry data
  have hv : s.Verbatim := ⟨rfl, rfl, by simp [s], by simp [s]⟩
  have hsep : s.SplitsByText := by
    intro f hf op hop form hform
    simp only [s, List.mem_cons, List.not_mem_nil, or_false] at hf
    rcases hf with rfl | rfl <;> simp only [List.mem_singleton] at hop <;> subst hop <;>
      cases hform <;> exact ⟨_, rfl⟩
  have hsplit : Wire.splitValues "and".toList "(1 AND nan)".toList =
      ["1".toList, "nan".toList] := by decide +kernel
  have hsplit' : Wire.splitValues ";".toList "red; blue".toList = ["red".toList, "blue".toList] := by
    decide +kernel
  let size : Field := { key := "size", label := "Size", type := "number", operators := [betweenOp] }
  let tags : Field := { key := "tags", label := "Tags", operators := [inOp] }
  let range : Value :=
    ⟨.list [Wire.numberOrText "1", Wire.numberOrText "nan"], "1 and nan", "(1 AND nan)"⟩
  let colours : Value := ⟨.list [.text "red", .text "blue"], "red;blue", "red; blue"⟩
  have hrange : Entry.ownValue size betweenOp (.text "(1 AND nan)") = .ok range := by
    simp only [Entry.ownValue, betweenOp, Wire.multiValue, Wire.parts?, hsplit]
    rfl
  have hcolours : Entry.ownValue tags inOp (.text "red; blue") = .ok colours := by
    simp only [Entry.ownValue, inOp, Wire.multiValue, Wire.parts?, hsplit']
    rfl
  have hsize : Entry.Restored s {} (entry "size" "between" [(.text "value", .text "(1 AND nan)")])
      ⟨⟨size.ref, betweenOp.ref, range⟩, none⟩ :=
    .intro rfl rfl (map_ok.mpr ⟨_, hrange, rfl⟩)
  have htags : Entry.Restored s {} (entry "tags" "in" [(.text "value", .text "red; blue")])
      ⟨⟨tags.ref, inOp.ref, colours⟩, none⟩ :=
    .intro rfl rfl (map_ok.mpr ⟨_, hcolours, rfl⟩)
  have hr : ∃ errors, s.restoreFilter data = .ok (.ofParts
      [⟨⟨size.ref, betweenOp.ref, range⟩, none⟩, ⟨⟨tags.ref, inOp.ref, colours⟩, none⟩] errors) :=
    ⟨_, (restoreFilter_ok_iff rfl).mpr ⟨_, _, .keep (Entry.restore_ok_iff.mpr hsize)
      (.skip rfl (.keep (Entry.restore_ok_iff.mpr htags) .nil)), rfl⟩⟩
  obtain ⟨errors, hr⟩ := hr
  have ht : ∀ item ∈ data.entries, Entry.HoldsText item := by
    simp [data, entry, Data.entries, Entry.HoldsText, Entry.stored?, Data.lookup]
  obtain ⟨stored, back, hstored, hback, herrors, -, -, hsame⟩ := restoreFilter_settles hv hsep hr
  exact ⟨_, stored, back, hr, rfl, hstored, hback, herrors, hsame ht⟩

end

end Criteria
