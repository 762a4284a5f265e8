import Criteria.Wire.Store
import Criteria.Proofs.Fault
import Criteria.Proofs.Filter.Joined

/-!
# Storing and restoring

An expression comes back from its stored form if the schema gives its field and operator for
their keys and the field gives its value back (`Schema.Keeps`). Entries are restored
independently of each other, so a filter comes back if each of its expressions does. Linking
what was restored changes nothing, as the connectors stand where they should.
-/

namespace Criteria

def Field.stored (f : Field) (v : Value) : Except String Data :=
  match f.store with
  | some hook => hook v
  | none => .ok (.text v.wire)

/-- A field gives back a value that it stored. Without a hook it keeps the stored text, so
all the forms of the value have to be that text. -/
def Field.GivesBack (f : Field) (op : Operator) (v : Value) (stored : Data) : Prop :=
  match f.restore with
  | some hook => hook stored = .ok (.value v)
  | none => op.multiValue = none ∧ stored = .text v.wire ∧ v.raw = .text v.wire ∧
      v.display = v.wire

def Schema.Keeps (s : Schema) (e : Expression) : Prop :=
  ∃ f op stored, s.field? e.field.key = some f ∧ f.operator? e.operator.key = some op ∧
    f.ref = e.field ∧ op.ref = e.operator ∧
    f.stored e.value = .ok stored ∧ f.GivesBack op e.value stored

section
variable {s : Schema} {f : Field} {op : Operator} {e : Expression} {es : Filter} {stored : Data}

-- ---------------------------------------------------------------------------
-- Values
-- ---------------------------------------------------------------------------

theorem storedValue_of_field? (hf : s.field? e.field.key = some f)
    (hs : f.stored e.value = .ok stored) : e.storedValue (some s) {} = .ok stored := by
  unfold Field.stored at hs
  simp only [Expression.storedValue, hf, Option.bind_some]
  cases hh : f.store with
  | none =>
    simp only [hh, Except.ok.injEq] at hs
    exact congrArg Except.ok hs
  | some hook =>
    simp only [hh] at hs
    simp only [hs, orRefused]

theorem plainValue_text (t : String) : Wire.plainValue (.text t) = .ok ⟨.text t, t, t⟩ := rfl

theorem restoredValue_of_givesBack (h : f.GivesBack op v stored) :
    Entry.restoredValue {} f op stored = .ok (.ok v) := by
  unfold Field.GivesBack at h
  unfold Entry.restoredValue
  cases hh : f.restore with
  | some hook =>
    simp only [hh] at h
    simp only [if_true, Entry.hookValue, h]
  | none =>
    simp only [hh] at h
    obtain ⟨hm, rfl, hraw, hdisplay⟩ := h
    obtain ⟨raw, display, wire⟩ := v
    simp only at hraw hdisplay
    subst hraw hdisplay
    simp only [if_true, Entry.ownValue, hm, plainValue_text]
    rfl

-- ---------------------------------------------------------------------------
-- Entries
-- ---------------------------------------------------------------------------

theorem locate_record (stored : Data) (hf : s.field? e.field.key = some f)
    (ho : f.operator? e.operator.key = some op) :
    ∃ entries, e.record stored = .record entries ∧
      Entry.locate s entries = .ok (f, op, stored) ∧
      Data.lookup "connector" entries = e.connector.map .text := by
  refine ⟨_, rfl, ?_, ?_⟩
  · refine bind_ok.mpr ⟨e.field.key, rfl, bind_ok.mpr ⟨e.operator.key, rfl, ?_⟩⟩
    simp [Data.lookup, hf, ho]
  · cases e.connector <;> simp [Data.lookup]

theorem connector_of_lookup (h : Data.lookup "connector" entries = c.map .text)
    (hc : ∀ x, c = some x → x ∈ Connector.all) : Entry.connector entries = .ok (.ok c) := by
  unfold Entry.connector
  rw [h]
  cases c with
  | none => rfl
  | some x =>
    have hknown : Connector.ofData? (.text x) = some x := Connector.ofData?_text (hc x rfl)
    simp only [Option.map_some, Data.ofOption, hknown]

theorem restore_record (hk : s.Keeps e) (hc : ∀ c, e.connector = some c → c ∈ Connector.all) :
    ∃ stored, e.storedValue (some s) {} = .ok stored ∧
      Entry.restore s {} (e.record stored) = .ok (.ok e) := by
  obtain ⟨f, op, stored, hf, ho, hfield, hoperator, hstored, hback⟩ := hk
  obtain ⟨entries, hrecord, hlocate, hlookup⟩ := locate_record (e := e) stored hf ho
  refine ⟨stored, storedValue_of_field? hf hstored, ?_⟩
  rw [hrecord]
  simp only [Entry.restore, hlocate, connector_of_lookup hlookup hc,
    restoredValue_of_givesBack hback, hfield, hoperator]
  rfl

theorem restoreFrom_storeEach (hk : ∀ e ∈ es, s.Keeps e)
    (hc : ∀ e ∈ es, ∀ c, e.connector = some c → c ∈ Connector.all) :
    ∃ items, es.storeEach (some s) {} = .ok items ∧
      ∀ i, Entry.restoreFrom s {} i items = .ok (es, []) := by
  induction es with
  | nil => exact ⟨[], rfl, fun i => rfl⟩
  | cons e es ih =>
    simp only [List.forall_mem_cons] at hk hc
    obtain ⟨stored, hstored, hrestore⟩ := restore_record hk.1 hc.1
    obtain ⟨items, hitems, hrest⟩ := ih hk.2 hc.2
    refine ⟨e.record stored :: items, ?_, fun i => ?_⟩
    · exact bind_ok.mpr ⟨stored, hstored, bind_ok.mpr ⟨items, hitems, rfl⟩⟩
    · exact bind_ok.mpr ⟨.ok e, hrestore, bind_ok.mpr ⟨(es, []), hrest (i + 1), rfl⟩⟩

-- ---------------------------------------------------------------------------
-- Filters
-- ---------------------------------------------------------------------------

theorem store_of_unhooked (h : s.store = none) :
    es.store (some s) = es.storeEach (some s) {} := by
  simp [Filter.store, h]

theorem restoreFilter_of_unhooked (h : s.restore = none)
    (hr : Entry.restoreFrom s {} 0 items = .ok (es, errors)) :
    s.restoreFilter (.list items) = .ok (.ofParts es errors) := by
  simp only [Schema.restoreFilter, h, if_true]
  exact bind_ok.mpr ⟨(es, errors), hr, rfl⟩

/-- A filter whose expressions the schema keeps comes back from its stored form as it was. -/
theorem restoreFilter_store (hstore : s.store = none) (hrestore : s.restore = none)
    (hl : es.linkProblem? = none)
    (hc : ∀ e ∈ es, ∀ c, e.connector = some c → c ∈ Connector.all)
    (hk : ∀ e ∈ es, s.Keeps e) :
    ∃ items r, es.store (some s) = .ok items ∧ s.restoreFilter (.list items) = .ok r ∧
      r.errors = [] ∧ r.expressions = es := by
  obtain ⟨items, hitems, hback⟩ := restoreFrom_storeEach hk hc
  have hjoined : Filter.joined es = es :=
    Filter.joined_of_linked (Filter.linkProblem?_eq_none_iff.mp hl)
  exact ⟨items, .ofParts es [], (store_of_unhooked hstore).trans hitems,
    restoreFilter_of_unhooked hrestore (hback 0), rfl, hjoined⟩

/-- A field with hooks that stores numbers beside one that stores its texts. -/
theorem restoreFilter_store_mixed :
    let s : Schema :=
      { fields :=
          [{ key := "size", label := "Size", operators := [{ key := "is", label := "is" }]
             store := some fun v => .ok v.raw
             restore := some fun
               | .int n => .ok (.value ⟨.int n, "a size", "stored elsewhere"⟩)
               | _ => .error "no size" },
            { key := "colour", label := "Colour", operators := [{ key := "is", label := "is" }] }] }
    let es : Filter :=
      [{ condition := ⟨{ key := "colour", label := "Colour" }, { key := "is", label := "is" },
          ⟨.text "red", "red", "red"⟩⟩, connector := some "OR" },
        { condition := ⟨{ key := "size", label := "Size" }, { key := "is", label := "is" },
          ⟨.int 42, "a size", "stored elsewhere"⟩⟩ }]
    es.linkProblem? = none ∧ (∀ e ∈ es, s.Keeps e) ∧
      ∃ items r, es.store (some s) = .ok items ∧ s.restoreFilter (.list items) = .ok r ∧
        r.errors = [] ∧ r.expressions = es := by
  intro s es
  have hl : es.linkProblem? = none := rfl
  have hc : ∀ e ∈ es, ∀ c, e.connector = some c → c ∈ Connector.all := by
    simp [es, Connector.all]
  have hk : ∀ e ∈ es, s.Keeps e := by
    simp only [es, List.forall_mem_cons]
    refine ⟨?_, ?_, nofun⟩
    · exact ⟨_, _, .text "red", rfl, rfl, rfl, rfl, rfl, rfl, rfl, rfl, rfl⟩
    · exact ⟨_, _, .int 42, rfl, rfl, rfl, rfl, rfl, rfl⟩
  exact ⟨hl, hk, restoreFilter_store rfl rfl hl hc hk⟩

end

end Criteria
