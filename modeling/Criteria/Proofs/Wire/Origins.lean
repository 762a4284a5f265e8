import Mathlib.Data.List.Forall2
import Criteria.Proofs.Wire.Answers
import Criteria.Wire.Query

/-!
# Where restored expressions come from

Without hooks a restored condition consists of the field and the operator that the schema has
for the keys of an entry, and of what the operator makes of the stored value (`Schema.Reads`).
So it is determined by these three. The expressions of a restored filter come from entries in
the same order, with known connectors. With hooks or without, what was restored is linked.
-/

namespace Criteria

def Data.entries : Data → List Data
  | list items => items
  | _ => []

namespace Entry

def stored? : Data → Option Data
  | .record entries => Data.lookup "value" entries
  | _ => none

def HoldsText (item : Data) : Prop :=
  ∀ stored, stored? item = some stored → ∃ text, stored = .text text

/-- What a stored value is restored as without a hook: a list if the operator takes several values
and the stored one can hold them, else itself. -/
inductive Gives (op : Operator) (stored : Data) : Value → Prop
  | kept {text : String} (h : op.multiValue ≠ none → ¬ stored.Several)
      (hw : stored.wireText = .ok text) : Gives op stored ⟨stored, text, text⟩
  | list {items : List Data} {texts : List String} {display wire : String}
      (hm : op.multiValue ≠ none) (hi : Data.wireTexts items = .ok texts)
      (hw : stored.wireText = .ok wire) : Gives op stored ⟨.list items, display, wire⟩

end Entry

namespace Schema

structure Resolves (s : Schema) (c : Condition) (f : Field) (op : Operator) : Prop where
  field : s.field? c.field.key = some f
  operator : f.operator? c.operator.key = some op

inductive Reads (s : Schema) (stored : Data) : Condition → Prop
  | intro {f : Field} {op : Operator} {v : Value} (h : s.Resolves ⟨f.ref, op.ref, v⟩ f op)
      (hv : Entry.ownValue f op stored = .ok v) : Reads s stored ⟨f.ref, op.ref, v⟩

def TakesSeveral (s : Schema) (e : Expression) : Prop :=
  ∃ f op, s.Resolves e.condition f op ∧ op.multiValue ≠ none

/-- An entry holds the value that the condition of an expression is restored from. -/
def Origin (s : Schema) (item : Data) (e : Expression) : Prop :=
  ∃ stored, Entry.stored? item = some stored ∧ s.Reads stored e.condition

end Schema

section
variable {s : Schema} {options : RestoreOptions} {data stored item : Data} {items : List Data}
  {f : Field} {op : Operator} {e : Expression} {es : Filter} {c c' : Condition} {r : Restoration}
  {v : Value} {text : String}

namespace Schema

theorem Resolves.unique (h : s.Resolves c f op) (h' : s.Resolves c f' op') :
    f' = f ∧ op' = op := by
  obtain rfl : f' = f := Option.some.inj (h'.field.symm.trans h.field)
  exact ⟨rfl, Option.some.inj (h'.operator.symm.trans h.operator)⟩

theorem Reads.resolves (h : s.Reads stored c) : ∃ f op, s.Resolves c f op ∧
    f.ref = c.field ∧ op.ref = c.operator ∧ Entry.ownValue f op stored = .ok c.value := by
  cases h with
  | intro h hv => exact ⟨_, _, h, rfl, rfl, hv⟩

theorem Reads.unique (h : s.Reads stored c) (h' : s.Reads stored c')
    (hf : c'.field.key = c.field.key) (ho : c'.operator.key = c.operator.key) : c' = c := by
  cases h with
  | @intro f op v hr hv =>
    cases h' with
    | @intro f' op' v' hr' hv' =>
      have hr' : s.Resolves ⟨f.ref, op.ref, v⟩ f' op' :=
        ⟨(congrArg s.field? hf).symm.trans hr'.field,
          (congrArg f'.operator? ho).symm.trans hr'.operator⟩
      obtain ⟨rfl, rfl⟩ := hr.unique hr'
      obtain rfl : v' = v := Except.ok.inj (hv'.symm.trans hv)
      rfl

end Schema

-- ---------------------------------------------------------------------------
-- Entries
-- ---------------------------------------------------------------------------

theorem Connector.mem_all_of_ofData? {d : Data} (h : ofData? d = some x) : x ∈ all := by
  cases d with
  | text t =>
    obtain ⟨hknown, rfl⟩ : t ∈ all ∧ t = x := by simpa [ofData?, isKnown] using h
    exact hknown
  | _ => cases h

namespace Entry

theorem gives_of_plainValue (h : Wire.plainValue stored = .ok v)
    (hs : op.multiValue ≠ none → ¬ stored.Several) : Gives op stored v := by
  obtain ⟨text, htext, h⟩ := bind_ok.mp h
  obtain rfl := pure_ok.mp h
  exact .kept hs htext

theorem gives_of_ownValue (h : ownValue f op stored = .ok v) : Gives op stored v := by
  unfold ownValue at h
  split at h
  next form hm =>
    unfold Wire.multiValue at h
    split at h
    next separator _ =>
      split at h
      next parts hp =>
        obtain ⟨texts, htexts, h⟩ := bind_ok.mp h
        obtain ⟨wire, hwire, h⟩ := bind_ok.mp h
        obtain rfl := pure_ok.mp h
        exact .list (by simp [hm]) htexts hwire
      next hp => exact gives_of_plainValue h fun _ hs => by cases hs <;> cases hp
    · split at h
      · cases h
      · cases h
      · cases h
      next hlist htuple htext =>
        refine gives_of_plainValue h fun _ hs => ?_
        cases hs with
        | list => exact hlist _ rfl
        | tuple => exact htuple _ rfl
        | text => exact htext _ rfl
  next hm => exact gives_of_plainValue h fun hne => absurd hm hne

theorem Gives.not_oversized (h : Gives op stored v) : ¬ v.raw.Oversized := by
  cases h with
  | kept _ hw => exact stored.answers_wireText.mp ⟨_, hw⟩
  | list _ hi _ => exact Data.not_oversized_list.mpr ((Data.answers_wireTexts _).mp ⟨_, hi⟩)

theorem Gives.several (h : Gives op stored v) (hm : op.multiValue ≠ none) (hs : stored.Several) :
    ∃ items, v.raw = .list items := by
  cases h with
  | kept h _ => exact absurd hs (h hm)
  | list => exact ⟨_, rfl⟩

theorem ownValue_text (h : ownValue f op (.text text) = .ok v) :
    (op.multiValue = none ∧ v = ⟨.text text, text, text⟩) ∨
      (op.multiValue ≠ none ∧ ∃ items display, v = ⟨.list items, display, text⟩) := by
  cases gives_of_ownValue h with
  | kept hs hw =>
    obtain rfl := Except.ok.inj hw
    exact .inl ⟨not_not.mp fun hm => hs hm .text, rfl⟩
  | list hm _ hw =>
    obtain rfl := Except.ok.inj hw
    exact .inr ⟨hm, _, _, rfl⟩

theorem Restored.origin (h : Restored s options item e) (hf : ∀ f ∈ s.fields, f.restore = none) :
    s.Origin item e := by
  cases h with
  | @intro entries f op stored c value hl hc hv =>
    have hfound := locate_ok_iff.mp hl
    obtain ⟨fieldKey, -, hfield⟩ := hfound.field
    obtain ⟨operatorKey, -, hoperator⟩ := hfound.operator
    have hhook : (if options.fieldHooks then f.restore else none) = none := by
      simp [hf f (List.mem_of_find?_eq_some hfield)]
    simp only [restoredValue, hhook] at hv
    obtain ⟨v, hv, hvalue⟩ := map_ok.mp hv
    cases hvalue
    obtain rfl : f.key = fieldKey := by simpa using List.find?_some hfield
    obtain rfl : op.key = operatorKey := by simpa using List.find?_some hoperator
    exact ⟨stored, hfound.value, .intro ⟨hfield, hoperator⟩ hv⟩

theorem Restored.connector_known (h : Restored s options item e) (hc : e.connector = some x) :
    x ∈ Connector.all := by
  cases h with
  | intro _ hlinks _ =>
    obtain ⟨d, -, hd⟩ := Option.bind_eq_some_iff.mp ((connector_ok hlinks).symm.trans hc)
    exact Connector.mem_all_of_ofData? hd

theorem Restores.kept (h : Restores s options i items es errors) :
    ∃ kept, kept.Sublist items ∧ List.Forall₂ (Restored s options) kept es := by
  induction h with
  | nil => exact ⟨[], .slnil, .nil⟩
  | keep h _ ih =>
    obtain ⟨kept, hsub, hall⟩ := ih
    exact ⟨_ :: kept, hsub.cons_cons _, .cons (restore_ok_iff.mp h) hall⟩
  | skip _ _ ih =>
    obtain ⟨kept, hsub, hall⟩ := ih
    exact ⟨kept, hsub.cons _, hall⟩

end Entry

-- ---------------------------------------------------------------------------
-- Filters
-- ---------------------------------------------------------------------------

namespace Filter

theorem forall₂_joined {R : α → Expression → Prop} {xs : List α}
    (hR : ∀ x e c, R x e → R x (e.withConnector c)) (h : List.Forall₂ R xs es) :
    List.Forall₂ R xs (joined es) := by
  induction h with
  | nil => exact .nil
  | @cons x e xs es hx hxs ih =>
    cases hxs with
    | nil => exact .cons (hR _ _ _ hx) .nil
    | cons => exact .cons (hR _ _ _ hx) ih

theorem joined_known (h : ∀ e ∈ es, ∀ x, e.connector = some x → x ∈ Connector.all) :
    ∀ e ∈ joined es, ∀ x, e.connector = some x → x ∈ Connector.all := by
  induction es with
  | nil => nofun
  | cons e es ih =>
    rw [List.forall_mem_cons] at h
    by_cases hne : es = []
    · subst hne
      simp [joined]
    · rw [joined_cons hne, List.forall_mem_cons]
      refine ⟨fun x hx => ?_, ih h.2⟩
      obtain rfl : e.connector.getD Connector.implied = x := Option.some.inj hx
      cases hc : e.connector with
      | none => simp [Connector.all, Connector.implied]
      | some x => exact h.1 x hc

end Filter

theorem restoreFilter_restores (hs : s.restore = none)
    (h : s.restoreFilter data options = .ok r) :
    ∃ es errors, Entry.Restores s options 0 data.entries es errors ∧
      r.expressions = Filter.joined es := by
  cases data with
  | list items =>
    obtain ⟨es, errors, hr, rfl⟩ := (restoreFilter_ok_iff hs).mp h
    exact ⟨es, errors, hr, rfl⟩
  | _ =>
    simp only [Schema.restoreFilter, hs, ite_self] at h
    cases h
    exact ⟨[], [], .nil, rfl⟩

theorem restoreFilter_origins (hs : s.restore = none) (hf : ∀ f ∈ s.fields, f.restore = none)
    (h : s.restoreFilter data options = .ok r) :
    ∃ kept, kept.Sublist data.entries ∧ List.Forall₂ s.Origin kept r.expressions := by
  obtain ⟨es, errors, hr, he⟩ := restoreFilter_restores hs h
  obtain ⟨kept, hsub, hall⟩ := hr.kept
  refine ⟨kept, hsub, he ▸ Filter.forall₂_joined (fun _ _ _ h => h) ?_⟩
  exact hall.imp fun _ _ h => h.origin hf

theorem restoreFilter_origin (hs : s.restore = none) (hf : ∀ f ∈ s.fields, f.restore = none)
    (h : s.restoreFilter data options = .ok r) (he : e ∈ r.expressions) :
    ∃ item ∈ data.entries, s.Origin item e := by
  obtain ⟨kept, hsub, hall⟩ := restoreFilter_origins hs hf h
  obtain ⟨k, hk, rfl⟩ := List.getElem_of_mem he
  have hk' : k < kept.length := hall.length_eq ▸ hk
  exact ⟨kept[k], hsub.subset (List.getElem_mem hk'), hall.get hk' hk⟩

theorem restoreFilter_known (hs : s.restore = none) (h : s.restoreFilter data options = .ok r) :
    ∀ e ∈ r.expressions, ∀ x, e.connector = some x → x ∈ Connector.all := by
  obtain ⟨es, errors, hr, hjoined⟩ := restoreFilter_restores hs h
  obtain ⟨kept, -, hall⟩ := hr.kept
  rw [hjoined]
  refine Filter.joined_known fun e he x hx => ?_
  obtain ⟨k, hk, rfl⟩ := List.getElem_of_mem he
  exact (hall.get (hall.length_eq ▸ hk) hk).connector_known hx

end

-- ---------------------------------------------------------------------------
-- Query strings
-- ---------------------------------------------------------------------------

inductive Schema.ReadsFirst (s : Schema) : Condition → Prop
  | intro {f : Field} {op : Operator} {text : String}
      (h : s.Resolves ⟨f.ref, op.ref, ⟨.text text, text, text⟩⟩ f op) :
      ReadsFirst s ⟨f.ref, op.ref, ⟨.text text, text, text⟩⟩

theorem Schema.ReadsFirst.resolves {s : Schema} {c : Condition} (h : s.ReadsFirst c) :
    ∃ f op text, s.Resolves c f op ∧ c.value.raw = .text text := by
  cases h with
  | intro h => exact ⟨_, _, _, h, rfl⟩

namespace Query

variable {s : Schema} {p : Form.Pair} {pairs : List Form.Pair} {e : Expression}

theorem restorePair_reads (h : restorePair s p = .ok e) : s.ReadsFirst e.condition := by
  unfold restorePair at h
  split at h
  · cases h
  next f hf =>
    split at h
    · cases h
    next op rest hops =>
      cases h
      have hkey : f.key = p.1 := by simpa using List.find?_some hf
      have hop : f.operator? op.key = some op := by simp [Field.operator?, hops]
      exact .intro ⟨(congrArg s.field? hkey).trans hf, hop⟩

theorem exists_pair_of_restoreFrom (h : e ∈ (restoreFrom s i pairs).1) :
    ∃ p, restorePair s p = .ok e := by
  induction pairs generalizing i with
  | nil => cases h
  | cons p pairs ih =>
    rw [restoreFrom] at h
    cases hp : restorePair s p with
    | error cause =>
      simp only [hp] at h
      exact ih h
    | ok e' =>
      simp only [hp] at h
      rcases List.mem_cons.mp h with rfl | h
      · exact ⟨p, hp⟩
      · exact ih h

end Query

/-- An expression of a query string comes from a pair and is joined by the implied connector. -/
theorem exists_pair_of_restoreQuery {schema : Schema} {query : String}
    (h : e ∈ (schema.restoreQuery query).expressions) :
    ∃ p e', Query.restorePair schema p = .ok e' ∧ e.condition = e'.condition ∧
      ∀ c, e.connector = some c → c = e'.connector.getD Connector.implied := by
  obtain ⟨e', he', hcondition, hconnector⟩ := Filter.exists_of_mem_joined h
  obtain ⟨p, hp⟩ := Query.exists_pair_of_restoreFrom he'
  exact ⟨p, e', hp, hcondition, hconnector⟩

theorem restoreQuery_reads {schema : Schema} {query : String}
    (h : e ∈ (schema.restoreQuery query).expressions) : schema.ReadsFirst e.condition := by
  obtain ⟨p, e', hp, hcondition, -⟩ := exists_pair_of_restoreQuery h
  exact hcondition ▸ Query.restorePair_reads hp

-- ---------------------------------------------------------------------------
-- Links
-- ---------------------------------------------------------------------------

namespace Restoration

theorem ofParts_linked (es : List Expression) (errors : List RestoreError) :
    Filter.Linked (ofParts es errors).expressions :=
  Filter.joined_linked

theorem failed_linked (cause : RestoreCause) : Filter.Linked (failed cause).expressions :=
  Filter.linked_nil

theorem ofBatch_linked (batch : Except String Batch) : Filter.Linked (ofBatch batch).expressions := by
  cases batch with
  | error message => exact failed_linked _
  | ok batch =>
    cases batch with
    | items items => exact ofParts_linked _ _
    | data d =>
      simp only [ofBatch]
      split
      · exact failed_linked _
      · exact ofParts_linked _ _

end Restoration

theorem restoreFilter_linked {schema : Schema}
    (h : schema.restoreFilter data options = .ok r) : Filter.Linked r.expressions := by
  unfold Schema.restoreFilter at h
  split at h
  next hook _ =>
    cases h
    exact Restoration.ofBatch_linked _
  · split at h
    · obtain ⟨⟨es, errors⟩, -, h⟩ := bind_ok.mp h
      cases h
      exact Restoration.ofParts_linked _ _
    · cases h
      exact Restoration.failed_linked _

theorem restoreQuery_linked (schema : Schema) (query : String) :
    Filter.Linked (schema.restoreQuery query).expressions :=
  Restoration.ofParts_linked _ _

end Criteria
