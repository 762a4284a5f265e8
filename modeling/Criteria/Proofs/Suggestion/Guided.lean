import Criteria.Proofs.Machine.Runs
import Criteria.Proofs.Suggestion.Choices
import Criteria.Proofs.Validation.Lists
import Criteria.Proofs.Validation.Schemas

/-!
# Building by suggestion

A guided run only makes choices that were suggested, and goes back and forth between them
as it likes. Every state of such a run is sound: what is committed fits the schema, and a
single-use field stands at most once among the committed fields and the field in progress.
The second half is what a suggestion relies on. A field is checked when it is offered and
committed only later, so the field in progress has to count already.
-/

namespace Criteria

namespace State

def keys (s : State) : List String :=
  s.expressions.map (·.field.key) ++ (s.field?.map (·.key)).toList

def conditions (s : State) : List Condition := s.expressions.map (·.condition)

/-- A choice that was suggested, or a value that fits where one is asked for. -/
inductive Choice (schema : Schema) (s : State) : Action → Prop
  | field (hs : s.suggest schema input = .ok items) (hi : item ∈ items)
      (hk : item.kind = .field) (hd : item.disabled = false) (hkey : item.key = .text key)
      (hf : schema.field? key = some f) : Choice schema s (.selectField (some f.ref))
  | operator (hs : s.suggest schema input = .ok items) (hi : item ∈ items)
      (hk : item.kind = .operator) (hkey : item.key = .text key)
      (hc : s.field? = some chosen) (hf : schema.field? chosen.key = some f)
      (ho : f.operator? key = some op) : Choice schema s (.selectOperator (some op.ref))
  | connector (hs : s.suggest schema input = .ok items) (hi : item ∈ items)
      (hk : item.kind = .connector) : Choice schema s (.selectConnector item.key)
  | value (ha : .confirmValue ∈ s.available) (hfield : s.field? = some field)
      (hoperator : s.operator? = some operator) (hf : schema.field? field.key = some f)
      (ho : f.operator? operator.key = some op) (hv : valueProblem? f op v.raw = none) :
      Choice schema s (.confirmValue v)

/-- The states of a machine that starts empty and is only told to make suggested choices,
to take one back, to focus or blur, to complete, or to start over. -/
inductive Guided (schema : Schema) : State → Prop
  | start : Guided schema (idle [])
  | navigate (hs : Guided schema s) (ha : a.isForward = false)
      (ht : s.transition a = (.ok outcome, s')) : Guided schema s'
  | choose (hs : Guided schema s) (hc : Choice schema s a)
      (ht : s.transition a = (.ok outcome, s')) : Guided schema s'

structure Sound (schema : Schema) (s : State) : Prop where
  wellFormed : s.WellFormed
  admitted : ∀ c ∈ s.conditions, schema.Admits c
  single : ∀ f ∈ schema.fields, f.allowMultiple = false → s.keys.count f.key ≤ 1

section
variable {schema : Schema} {s s' : State} {a : Action}

-- ---------------------------------------------------------------------------
-- What a move adds
-- ---------------------------------------------------------------------------

theorem Moves.conditions (h : Moves s a s') :
    s'.conditions.Sublist s.conditions ∨
      ∃ field operator value, a = .confirmValue value ∧ s.field? = some field ∧
        s.operator? = some operator ∧
        s'.conditions = s.conditions ++ [⟨field, operator, value⟩] := by
  cases h with
  | begin | selectField | selectOperator | complete | deleteField | deleteOperator =>
    exact .inl (List.Sublist.refl _)
  | resume | selectConnector | deleteConnector | blur =>
    simp [State.conditions, expressions, Filter.map_condition_withLast]
  | confirmValue =>
    exact .inr ⟨_, _, _, rfl, rfl, rfl, by simp [State.conditions, expressions]⟩
  | deleteValue => simp [State.conditions, expressions]
  | clear => simp [State.conditions]
  | reset => exact .inl (List.nil_sublist _)

theorem Moves.keys (h : Moves s a s') :
    s'.keys.Sublist s.keys ∨
      ∃ field, a = .selectField (some field) ∧ s'.keys = s.keys ++ [field.key] := by
  cases h with
  | begin | selectOperator | complete | deleteOperator => exact .inl (List.Sublist.refl _)
  | resume | selectConnector | deleteConnector | blur =>
    simp [State.keys, expressions, State.field?, Filter.map_key_withLast]
  | @selectField es pending field =>
    cases field with
    | none => exact .inl (List.Sublist.refl _)
    | some field => exact .inr ⟨field, rfl, by simp [State.keys, expressions, State.field?]⟩
  | confirmValue => simp [State.keys, expressions, State.field?, Expression.field]
  | deleteField => simp [State.keys, expressions, State.field?]
  | deleteValue => simp [State.keys, expressions, State.field?]
  | clear => simp [State.keys]
  | reset => exact .inl (List.nil_sublist _)

-- ---------------------------------------------------------------------------
-- What a choice promises
-- ---------------------------------------------------------------------------

theorem Choice.unused (ha : schema.Accepted) (h : Choice schema s (.selectField (some chosen))) :
    ∃ f, schema.field? chosen.key = some f ∧
      (f.allowMultiple = true ∨ chosen.key ∉ s.keys) := by
  cases h with
  | @field input items item key f hs hi hk hd hkey hf =>
    obtain ⟨es, pending, rfl, hmem⟩ := field_offered hs hi hk
    obtain ⟨g, hg, rfl⟩ := List.mem_map.mp hmem
    obtain rfl : g.key = key := Data.text.inj hkey
    have hg : schema.field? g.key = some g := ha.field?_key_eq hg
    obtain rfl : g = f := Option.some.inj (hg.symm.trans hf)
    refine ⟨g, hg, ?_⟩
    cases hm : g.allowMultiple with
    | true => exact .inl rfl
    | false =>
      refine .inr ?_
      simpa [hm, State.keys, expressions, State.field?, Field.ref] using hd

theorem Choice.admitted (h : Choice schema s (.confirmValue v)) (hfield : s.field? = some f)
    (hoperator : s.operator? = some o) : schema.Admits ⟨f, o, v⟩ := by
  cases h with
  | value ha hfield' hoperator' hf ho hv =>
    obtain rfl := Option.some.inj (hfield.symm.trans hfield')
    obtain rfl := Option.some.inj (hoperator.symm.trans hoperator')
    exact ⟨_, _, hf, ho, hv⟩

theorem Choice.moves (hc : ∀ c ∈ schema.connectors, c.key ∈ Connector.all)
    (h : Choice schema s a) : ∃ s', Moves s a s' := by
  cases h with
  | field hs hi hk =>
    obtain ⟨es, pending, rfl, -⟩ := field_offered hs hi hk
    exact ⟨_, .selectField⟩
  | operator hs hi hk =>
    obtain ⟨es, pending, field, rfl⟩ := operator_offered hs hi hk
    exact ⟨_, .selectOperator⟩
  | connector hs hi hk =>
    obtain ⟨es, rfl, hne, c, hmem, rfl⟩ := connector_offered hs hi hk
    have hknown : Connector.ofData? (.text c.key) = some c.key := Connector.ofData?_text (hc c hmem)
    exact ⟨_, .selectConnector hne hknown⟩
  | value ha hfield hoperator =>
    cases s with
    | enteringValue es pending field operator =>
      cases hfield
      cases hoperator
      exact ⟨_, .confirmValue⟩
    | _ => cases hoperator

-- ---------------------------------------------------------------------------
-- Guided runs
-- ---------------------------------------------------------------------------

theorem sound_start : Sound schema (idle []) :=
  ⟨Filter.linked_nil, by simp [State.conditions, expressions],
    by simp [State.keys, expressions, State.field?]⟩

theorem Sound.moves (hs : Sound schema s) (ha : schema.Accepted)
    (hc : a.isForward = false ∨ Choice schema s a) (hm : Moves s a s') : Sound schema s' where
  wellFormed := hm.wellFormed hs.wellFormed
  admitted := by
    rcases hm.conditions with hsub | ⟨field, operator, value, rfl, hfield, hoperator, heq⟩
    · exact fun c hmem => hs.admitted c (hsub.subset hmem)
    · rcases hc with hf | hc
      · cases hf
      · intro c hmem
        rcases List.mem_append.mp (heq ▸ hmem) with hmem | hmem
        · exact hs.admitted c hmem
        · exact List.mem_singleton.mp hmem ▸ hc.admitted hfield hoperator
  single := by
    intro f hf hm₁
    rcases hm.keys with hsub | ⟨field, rfl, heq⟩
    · exact Nat.le_trans (hsub.count_le f.key) (hs.single f hf hm₁)
    · rcases hc with hforward | hc
      · cases hforward
      · rw [heq, List.count_append]
        by_cases hkey : field.key = f.key
        · -- The field in progress is new, so it is the only use.
          obtain ⟨g, hg, hunused⟩ := hc.unused ha
          rw [hkey] at hg hunused
          obtain rfl : g = f := Option.some.inj (hg.symm.trans (ha.field?_key_eq hf))
          have hnot : g.key ∉ s.keys := hunused.resolve_left (by simp [hm₁])
          simp [List.count_eq_zero.mpr hnot, hkey]
        · simpa [List.count_singleton, hkey] using hs.single f hf hm₁

theorem Sound.transition (hs : Sound schema s) (ha : schema.Accepted)
    (hc : a.isForward = false ∨ Choice schema s a) (ht : s.transition a = (.ok outcome, s')) :
    Sound schema s' := by
  rcases transition_cases hs.wellFormed a with ⟨t, hm, happ⟩ | ⟨r, -, hr⟩ | ⟨-, hr⟩
  · cases happ.transition.symm.trans ht
    exact hs.moves ha hc hm
  · cases hr.symm.trans ht
    exact hs
  · cases hr.symm.trans ht

theorem Guided.sound (ha : schema.Accepted) (h : Guided schema s) : Sound schema s := by
  induction h with
  | start => exact sound_start
  | navigate _ hforward ht ih => exact ih.transition ha (.inl hforward) ht
  | choose _ hc ht ih => exact ih.transition ha (.inr hc) ht

theorem Sound.valid (hs : Sound schema s) (hu : schema.Unhooked)
    (hm : schema.maxExpressions = none) :
    ∃ r, schema.validate s.filter = .ok r ∧ r.isValid = true := by
  refine Schema.validate_isValid_iff.mpr ⟨by simp [hm], ⟨?_, ?_⟩, ?_, by simp [hu.schema]⟩
  · intro p hp
    have hmem : p.1.condition ∈ s.conditions := by
      rw [State.conditions, ← Filter.map_condition_withLast]
      exact List.mem_map_of_mem (List.fst_mem_of_mem_zipIdx hp)
    exact Schema.validateExpression_of_admits hu (hs.admitted _ hmem)
  · exact hs.wellFormed.connected.linked_withLast
  · intro f hf
    cases hmany : f.allowMultiple with
    | true => exact .inl rfl
    | false =>
      refine .inr (Nat.le_trans ?_ (hs.single f hf hmany))
      rw [filter, Filter.uses_withLast, Filter.uses_eq_count, State.keys, List.count_append]
      exact Nat.le_add_right _ _

/-- Following the suggestions builds a valid filter, and nothing that was suggested is
refused. -/
theorem guided_valid (ha : schema.Accepted) (hu : schema.Unhooked)
    (hm : schema.maxExpressions = none) (hc : ∀ c ∈ schema.connectors, c.key ∈ Connector.all)
    (h : Guided schema s) :
    (∃ r, schema.validate s.filter = .ok r ∧ r.errors = []) ∧
      ∀ a, Choice schema s a → ∃ s', s.Applies a s' := by
  have hs : Sound schema s := h.sound ha
  constructor
  · obtain ⟨r, hr, hv⟩ := hs.valid hu hm
    exact ⟨r, hr, List.isEmpty_iff.mp hv⟩
  · intro a hchoice
    obtain ⟨s', hmove⟩ := hchoice.moves hc
    exact ⟨s', hmove.applies hs.wellFormed⟩

/-- The colour is chosen from the suggestions for a text, then an operator and a value. -/
theorem guided_valid_colour :
    let schema : Schema :=
      { fields :=
          [{ key := "size", label := "Size", operators := [{ key := "is", label := "is" }] },
            { key := "colour", label := "Colour", allowMultiple := false
              operators := [{ key := "is", label := "is" }] }] }
    let field : FieldRef := { key := "colour", label := "Colour" }
    let operator : OperatorRef := { key := "is", label := "is" }
    let s : State :=
      selectingConnector [{ condition := ⟨field, operator, ⟨.text "red", "red", "red"⟩⟩ }]
    schema.Accepted ∧ schema.Unhooked ∧ Guided schema s ∧
      (∃ r, schema.validate s.filter = .ok r ∧ r.errors = []) ∧
      ∃ s', s.Applies (.selectConnector (.text "OR")) s' := by
  intro schema field operator s
  have ha : schema.Accepted := ⟨{}, rfl, rfl⟩
  have hu : schema.Unhooked := ⟨rfl, by simp [schema], by simp [schema]⟩
  have hc : ∀ c ∈ schema.connectors, c.key ∈ Connector.all := by decide
  have hfocus : Guided schema (selectingField [] none) :=
    .navigate (a := .focus) .start rfl rfl
  have hfields : (selectingField [] none).suggest schema "olo" = .ok _ := rfl
  have hfield : Guided schema (selectingOperator [] none field) :=
    .choose hfocus (.field hfields (.head _) rfl rfl rfl rfl) rfl
  have hoperators : (selectingOperator [] none field).suggest schema "" = .ok _ := rfl
  have hoperator : Guided schema (enteringValue [] none field operator) :=
    .choose hfield (.operator hoperators (.head _) rfl rfl rfl rfl rfl) rfl
  have hvalue : Guided schema s :=
    .choose hoperator (.value (by decide) rfl rfl rfl rfl rfl) rfl
  obtain ⟨hvalid, hchoice⟩ := guided_valid ha hu rfl hc hvalue
  have hconnectors : s.suggest schema "o" = .ok _ := rfl
  exact ⟨ha, hu, hvalue, hvalid, hchoice _ (.connector hconnectors (.head _) rfl)⟩

end

end State

end Criteria
