import Mathlib.Data.List.Nodup
import Criteria.Proofs.Validation.SelfCheck

/-!
# Unambiguous schemas

Fields and operators are looked up by their keys, and a look-up takes the first that it finds. The
check of a schema accepts exactly the schemas in which it makes no difference that it is the first
(`Schema.Unambiguous`): each key stands for one field, and for one operator of a field. In such a
schema every field and every operator is what is found under its key (`Schema.FindsEach`).
-/

namespace Criteria

/-- A field with operators under different keys. If a default operator is set, it is one of
them. -/
structure Field.Unambiguous (f : Field) : Prop where
  nonempty : f.operators ≠ []
  operatorKeys : (f.operators.map (·.key)).Nodup
  default : f.defaultOperator ≠ .null → ∃ op ∈ f.operators, f.defaultOperator = .text op.key

/-- A schema with unambiguous fields under different keys, and with room for an expression. -/
structure Schema.Unambiguous (s : Schema) : Prop where
  nonempty : s.fields ≠ []
  limit : ∀ limit, s.maxExpressions = some limit → 1 ≤ limit
  fieldKeys : s.fieldKeys.Nodup
  fields : ∀ f ∈ s.fields, f.Unambiguous

structure Schema.FindsEach (s : Schema) : Prop where
  field : ∀ f ∈ s.fields, s.field? f.key = some f
  operator : ∀ f ∈ s.fields, ∀ op ∈ f.operators, f.operator? op.key = some op
  default : ∀ f ∈ s.fields, ∃ op ∈ f.operators, f.default? = some op ∧
    (f.defaultOperator = .text op.key ∨
      f.defaultOperator = .null ∧ f.operators.head? = some op)

-- ---------------------------------------------------------------------------
-- Look-ups in unambiguous fields
-- ---------------------------------------------------------------------------

namespace Field

variable {f : Field} {op : Operator}

theorem Unambiguous.operator? (h : f.Unambiguous) (hop : op ∈ f.operators) :
    f.operator? op.key = some op :=
  Schema.find?_key h.operatorKeys hop

theorem default?_named (h : f.Unambiguous) (hop : op ∈ f.operators)
    (hd : f.defaultOperator = .text op.key) : f.default? = some op := by
  have hnamed : f.operators.findIdx? (·.key == op.key) ≠ none := by
    simpa using ⟨op, hop, rfl⟩
  obtain ⟨i, hi⟩ := Option.ne_none_iff_exists'.mp hnamed
  obtain ⟨hlt, hkey, -⟩ := List.findIdx?_eq_some_iff_getElem.mp hi
  have hfound : f.operators[i] = op :=
    List.inj_on_of_nodup_map h.operatorKeys (List.getElem_mem hlt) hop (by simpa using hkey)
  have hindex : f.defaultIndex? = some i := by simp [defaultIndex?, hd, hi]
  rw [default?, hindex]
  exact List.getElem?_eq_some_iff.mpr ⟨hlt, hfound⟩

theorem default?_first (hd : f.defaultOperator = .null) : f.default? = f.operators.head? := by
  cases hops : f.operators <;> simp [default?, defaultIndex?, hd, hops]

theorem defaultNamed_of_key (h : f.defaultOperator = .null ∨ ∃ key, f.defaultOperator = .text key) :
    f.DefaultNamed := by
  obtain h | ⟨key, h⟩ := h
  · exact ⟨.inl (h ▸ rfl), by simp [h]⟩
  · exact ⟨.inl (h ▸ rfl), by simp [h]⟩

end Field

namespace Schema

variable {s : Schema} {f : Field}

theorem Unambiguous.findsEach (h : s.Unambiguous) : s.FindsEach where
  field f hf := find?_key h.fieldKeys hf
  operator f hf op hop := (h.fields f hf).operator? hop
  default f hf := by
    have hfield := h.fields f hf
    by_cases hd : f.defaultOperator = .null
    · obtain ⟨op, rest, hops⟩ := List.exists_cons_of_ne_nil hfield.nonempty
      refine ⟨op, by simp [hops], ?_, .inr ⟨hd, by simp [hops]⟩⟩
      simp [Field.default?_first hd, hops]
    · obtain ⟨op, hop, hnamed⟩ := hfield.default hd
      exact ⟨op, hop, Field.default?_named hfield hop hnamed, .inl hnamed⟩

-- ---------------------------------------------------------------------------
-- Schemas without a problem
-- ---------------------------------------------------------------------------

theorem repeats_eq_nil_iff {seen keys : List String} :
    repeats seen keys = [] ↔ (∀ key ∈ keys, key ∉ seen) ∧ keys.Nodup := by
  induction keys generalizing seen with
  | nil => simp [repeats]
  | cons key keys ih =>
    have hrepeated : (if seen.contains key then [key] else []) = [] ↔ key ∉ seen := by simp
    rw [repeats, List.append_eq_nil_iff, hrepeated, ih, List.forall_mem_cons, List.nodup_cons]
    constructor
    · rintro ⟨hkey, hall, hnodup⟩
      exact ⟨⟨hkey, fun k hk hmem => hall k hk (.tail _ hmem)⟩, fun hmem => hall key hmem (.head _),
        hnodup⟩
    · rintro ⟨⟨hkey, hall⟩, hnew, hnodup⟩
      refine ⟨hkey, fun k hk hmem => ?_, hnodup⟩
      rcases List.mem_cons.mp hmem with rfl | hmem
      · exact hnew hk
      · exact hall k hk hmem

theorem defaultProblems_eq_nil_iff : defaultProblems f = [] ↔
    (f.defaultOperator ≠ .null → ∃ op ∈ f.operators, f.defaultOperator = .text op.key) := by
  unfold defaultProblems
  split
  next h => simp [h]
  next key h =>
    simp only [ite_eq_left_iff, List.cons_ne_nil, imp_false, not_not, List.any_eq_true,
      beq_iff_eq, h, ne_eq, reduceCtorEq, not_false_eq_true, forall_const, Data.text.injEq,
      @eq_comm _ key]
  next h => simp [h]
  next hnull htext _ =>
    -- What is neither left out nor a text is no key.
    refine iff_of_false (by split <;> simp) fun h => ?_
    obtain ⟨op, -, hop⟩ := h hnull
    exact htext _ hop

theorem operatorProblems_eq_nil_iff : operatorProblems f = [] ↔ f.Unambiguous := by
  unfold operatorProblems
  split
  next h => exact iff_of_false (by simp) fun hf => hf.nonempty (List.isEmpty_iff.mp h)
  next h =>
    rw [List.append_eq_nil_iff, List.map_eq_nil_iff, repeats_eq_nil_iff, defaultProblems_eq_nil_iff]
    constructor
    · rintro ⟨⟨-, hnodup⟩, hdefault⟩
      exact ⟨mt List.isEmpty_iff.mpr h, hnodup, hdefault⟩
    · rintro ⟨-, hnodup, hdefault⟩
      exact ⟨⟨by simp, hnodup⟩, hdefault⟩

theorem limitProblems_eq_nil_iff :
    s.limitProblems = [] ↔ ∀ limit, s.maxExpressions = some limit → 1 ≤ limit := by
  unfold limitProblems
  cases s.maxExpressions with
  | none => simp
  | some limit => simp

theorem accepted_iff_unambiguous : s.Accepted ↔ s.Unambiguous := by
  rw [accepted_iff, problems]
  split
  next h => exact iff_of_false (by simp) fun hs => hs.nonempty (List.isEmpty_iff.mp h)
  next h =>
    simp only [List.append_eq_nil_iff, limitProblems_eq_nil_iff, fieldProblems_eq_nil_iff,
      operatorProblems_eq_nil_iff]
    constructor
    · rintro ⟨hlimit, hfields, hnodup⟩
      exact ⟨mt List.isEmpty_iff.mpr h, hlimit, hnodup, fun f hf => (hfields f hf).2⟩
    · rintro ⟨-, hlimit, hnodup, hfields⟩
      exact ⟨hlimit, fun f hf => ⟨by simp, hfields f hf⟩, hnodup⟩

-- ---------------------------------------------------------------------------
-- The check of a schema
-- ---------------------------------------------------------------------------

/-- The check of a schema accepts exactly the unambiguous ones, in which every look-up finds what
it is meant to find. It ends with a report in any case, if default operators are keys and the
limit is not too long to be written. -/
theorem selfCheck_accepts_unambiguous (s : Schema) :
    ((∃ r, s.selfCheck = .ok r ∧ r.isValid = true) ↔ s.Unambiguous) ∧
    ((∃ r, s.selfCheck = .ok r ∧ r.isValid = true) → s.FindsEach) ∧
    ((∀ f ∈ s.fields, f.defaultOperator = .null ∨ ∃ key, f.defaultOperator = .text key) →
      (∀ limit, s.maxExpressions = some limit → ¬ (Data.int limit).Oversized) →
        ∃ r, s.selfCheck = .ok r ∧ (r.isValid = true ↔ s.Unambiguous)) := by
  have haccepted : (∃ r, s.selfCheck = .ok r ∧ r.isValid = true) ↔ s.Unambiguous :=
    accepted_iff_unambiguous
  refine ⟨haccepted, fun h => (haccepted.mp h).findsEach, fun hdefaults hlimit => ?_⟩
  obtain ⟨r, hr⟩ : Answers s.selfCheck := answers_selfCheck.mpr fun _ =>
    ⟨fun limit h _ => hlimit limit h, fun f hf _ => Field.defaultNamed_of_key (hdefaults f hf)⟩
  refine ⟨r, hr, fun hvalid => haccepted.mp ⟨r, hr, hvalid⟩, fun hs => ?_⟩
  obtain ⟨r', hr', hvalid⟩ := haccepted.mpr hs
  exact Except.ok.inj (hr'.symm.trans hr) ▸ hvalid

end Schema

end Criteria
