import Criteria.Proofs.Suggestion.Search

/-!
# What is offered

Typing narrows the choices down and adds none (`State.mem_choices`). Each kind of item is
offered in one step only, and an item that is offered comes from the schema
(`State.choices_cases`).
-/

namespace Criteria

namespace State

variable {s : State} {schema : Schema} {items : List Item} {item : Item}

theorem mem_choices (h : s.suggest schema input = .ok items) (hi : item ∈ items) :
    item ∈ s.choices schema := (Item.narrow_sublist h).subset hi

theorem choices_cases (hi : item ∈ s.choices schema) :
    (item.kind = .field ∧
      ∃ es pending, s = selectingField es pending ∧ item ∈ schema.fieldItems es) ∨
    (item.kind = .operator ∧
      ∃ es pending field, s = selectingOperator es pending (some field)) ∨
    (item.kind = .connector ∧
      ∃ es, s = selectingConnector es ∧ es ≠ [] ∧ ∃ c ∈ schema.connectors, item = c.item) := by
  cases s with
  | idle | enteringValue => cases hi
  | selectingField es pending =>
    refine .inl ⟨?_, es, pending, rfl, hi⟩
    obtain ⟨f, -, rfl⟩ := List.mem_map.mp hi
    rfl
  | selectingOperator es pending field =>
    cases field with
    | none => cases hi
    | some field =>
      refine .inr (.inl ⟨?_, es, pending, field, rfl⟩)
      simp only [choices] at hi
      split at hi
      · obtain ⟨op, -, rfl⟩ := List.mem_map.mp hi
        rfl
      · cases hi
  | selectingConnector es =>
    cases es with
    | nil => cases hi
    | cons e es =>
      obtain ⟨c, hc, rfl⟩ := List.mem_map.mp hi
      exact .inr (.inr ⟨rfl, _, rfl, List.cons_ne_nil e es, c, hc, rfl⟩)

theorem field_offered (h : s.suggest schema input = .ok items) (hi : item ∈ items)
    (hk : item.kind = .field) :
    ∃ es pending, s = selectingField es pending ∧ item ∈ schema.fieldItems es := by
  rcases choices_cases (mem_choices h hi) with ⟨-, h⟩ | ⟨hk', -⟩ | ⟨hk', -⟩
  · exact h
  · cases hk'.symm.trans hk
  · cases hk'.symm.trans hk

theorem operator_offered (h : s.suggest schema input = .ok items) (hi : item ∈ items)
    (hk : item.kind = .operator) :
    ∃ es pending field, s = selectingOperator es pending (some field) := by
  rcases choices_cases (mem_choices h hi) with ⟨hk', -⟩ | ⟨-, h⟩ | ⟨hk', -⟩
  · cases hk'.symm.trans hk
  · exact h
  · cases hk'.symm.trans hk

theorem connector_offered (h : s.suggest schema input = .ok items) (hi : item ∈ items)
    (hk : item.kind = .connector) :
    ∃ es, s = selectingConnector es ∧ es ≠ [] ∧ ∃ c ∈ schema.connectors, item = c.item := by
  rcases choices_cases (mem_choices h hi) with ⟨hk', -⟩ | ⟨hk', -⟩ | ⟨-, h⟩
  · cases hk'.symm.trans hk
  · cases hk'.symm.trans hk
  · exact h

end State

end Criteria
