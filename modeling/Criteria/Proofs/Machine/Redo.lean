import Criteria.Proofs.Machine.Rows

/-!
# Redoing

Deleting the last token is itself undone by choosing that token again. The choice can be read
off the state before the deletion (`State.lastChoice?`), however that state came about. Two
things would get lost: a slot that was empty cannot be chosen again where the grammar asks for
a token, and a connector that was loaded need not be one that can be chosen.
-/

namespace Criteria.State

open Criteria.Filter (Linked Awaits)

def lastChoice? : State → Option Action
  | idle _ => none
  | selectingField _ pending => pending.map fun c => .selectConnector (.text c)
  | selectingOperator _ _ field => some (.selectField field)
  | enteringValue _ _ _ operator => some (.selectOperator operator)
  | selectingConnector es => es.getLast?.map fun e => .confirmValue e.value

variable {s s' t : State} {a : Action} {k : Nat}

theorem lastChoice?_isForward (h : s.lastChoice? = some a) : a.isForward = true := by
  cases s with
  | idle => cases h
  | selectingField es pending =>
    obtain ⟨c, -, rfl⟩ := Option.map_eq_some_iff.mp h
    rfl
  | selectingOperator | enteringValue =>
    cases h
    rfl
  | selectingConnector es =>
    obtain ⟨e, -, rfl⟩ := Option.map_eq_some_iff.mp h
    rfl

theorem Moves.connectors_delete (h : Moves s .deleteLast s')
    (hc : ∀ e ∈ s.expressions, ∀ c, e.connector = some c → c ∈ Connector.all) :
    ∀ e ∈ s'.expressions, ∀ c, e.connector = some c → c ∈ Connector.all := by
  cases h with
  | @deleteConnector pending es hne =>
    obtain rfl | ⟨front, last, rfl⟩ := Filter.eq_nil_or_append es
    · exact absurd rfl hne
    · intro e he c hec
      rw [expressions, Filter.withLast_concat, List.mem_append, List.mem_singleton] at he
      rcases he with he | rfl
      · exact hc e (List.mem_append_left _ he) c hec
      · cases hec
  | deleteField => exact hc
  | deleteOperator => exact hc
  | deleteValue => exact fun e he => hc e (List.mem_append_left _ he)

theorem Moves.redo (h : Moves s .deleteLast s') (hs : s.WellFormed) (hf : s.Filled)
    (hc : ∀ e ∈ s.expressions, ∀ c, e.connector = some c → c ∈ Connector.all) :
    ∃ a, s.lastChoice? = some a ∧ Moves s' a s := by
  cases h with
  | @deleteConnector pending es hne =>
    -- The connector stands at the end of the expressions, where it comes back to.
    obtain ⟨c, rfl⟩ := Option.ne_none_iff_exists'.mp (mt (Awaits.unjoined hs).mp hne)
    have hknown : c ∈ Connector.all := by
      obtain rfl | ⟨front, last, rfl⟩ := Filter.eq_nil_or_append es
      · exact absurd rfl hne
      · exact hc last (by simp [expressions]) c (Filter.awaits_concat.mp hs).2.1
    have hm := Moves.selectConnector (Filter.withLast_ne_nil (c := none) hne)
      (Connector.ofData?_text hknown)
    rw [Filter.withLast_withLast, Awaits.withLast_pending hs] at hm
    exact ⟨_, rfl, hm⟩
  | deleteField => exact ⟨_, rfl, .selectField⟩
  | deleteOperator =>
    obtain ⟨field, rfl⟩ := Option.ne_none_iff_exists'.mp hf.1
    exact ⟨_, rfl, .selectOperator⟩
  | @deleteValue es e =>
    -- The last expression had no connector, and its value is confirmed without one.
    obtain ⟨-, he⟩ := Filter.linked_concat.mp hs
    obtain ⟨⟨field, operator, value⟩, connector⟩ := e
    obtain rfl : connector = none := he
    refine ⟨.confirmValue value, ?_, .confirmValue⟩
    simp [lastChoice?, Expression.value]

-- ---------------------------------------------------------------------------
-- Runs
-- ---------------------------------------------------------------------------

theorem applyAll?_redo (hs : s.WellFormed) (hf : s.Filled)
    (hc : ∀ e ∈ s.expressions, ∀ c, e.connector = some c → c ∈ Connector.all)
    (h : s.applyAll? (List.replicate k .deleteLast) = some t) :
    ∃ as : List Action, as.length = k ∧ (∀ a ∈ as, a.isForward = true) ∧
      t.applyAll? as = some s := by
  induction k generalizing s with
  | zero => exact ⟨[], rfl, by simp, h.symm⟩
  | succ k ih =>
    rw [List.replicate_succ, applyAll?_cons hs] at h
    obtain ⟨s₁, hm, hrest⟩ := h
    have hs₁ : s₁.WellFormed := hm.wellFormed hs
    obtain ⟨as, hlength, hforward, has⟩ :=
      ih hs₁ (hm.filled hf (.inr rfl)) (hm.connectors_delete hc) hrest
    obtain ⟨a, ha, hback⟩ := hm.redo hs hf hc
    -- The last of the choices takes the first of the deletions back.
    refine ⟨as ++ [a], by simp [hlength], ?_, ?_⟩
    · simp only [List.forall_mem_append, List.forall_mem_singleton]
      exact ⟨hforward, lastChoice?_isForward ha⟩
    · rw [applyAll?_append, has]
      exact (applyAll?_cons hs₁).mpr ⟨s, hback, rfl⟩

/-- From wherever a machine got to with its slots filled and connectors that can be chosen, the
last choice made again takes a deletion back, and as many choices take back any number of
deletions. -/
theorem deleteLast_redone (hs : s.Reachable) (hf : s.Filled)
    (hc : ∀ e ∈ s.expressions, ∀ c, e.connector = some c → c ∈ Connector.all) :
    (∀ s', s.Applies .deleteLast s' → ∃ a, s.lastChoice? = some a ∧ s'.Applies a s) ∧
      ∀ k t, s.applyAll? (List.replicate k .deleteLast) = some t →
        ∃ as : List Action, as.length = k ∧ (∀ a ∈ as, a.isForward = true) ∧
          t.applyAll? as = some s := by
  refine ⟨fun s' h => ?_, fun k t h => applyAll?_redo hs.wellFormed hf hc h⟩
  have hm := (applies_iff hs.wellFormed).mp h
  obtain ⟨a, ha, hback⟩ := hm.redo hs.wellFormed hf hc
  exact ⟨a, ha, hback.applies (hm.wellFormed hs.wellFormed)⟩

/-- A connector that was edited into a loaded filter, deleted and chosen again. -/
theorem deleteLast_redone_edited :
    let s : State := selectingField
      [.plain "colour" "is" "red" "OR", .plain "size" "is" "small" "AND"] (some "AND")
    s.Reachable ∧ s.Filled ∧
      (∃ s', s.Applies .deleteLast s' ∧ s'.Applies (.selectConnector (.text "AND")) s) ∧
      ∃ t as, s.applyAll? (List.replicate 3 .deleteLast) = some t ∧ t.applyAll? as = some s := by
  intro s
  have hs : s.Reachable :=
    ⟨[.plain "colour" "is" "red" "AND", .plain "size" "is" "small"], _,
      [.transition .focus, .edit (.connector (.text "OR")) 0 none], rfl, rfl⟩
  have hc : ∀ e ∈ s.expressions, ∀ c, e.connector = some c → c ∈ Connector.all := by
    simp [s, expressions, Expression.plain, Connector.all]
  obtain ⟨hstep, hrun⟩ := deleteLast_redone hs trivial hc
  have hdelete : s.Applies .deleteLast _ := rfl
  refine ⟨hs, trivial, ⟨_, hdelete, ?_⟩, ?_⟩
  · obtain ⟨a, ha, hback⟩ := hstep _ hdelete
    cases ha
    exact hback
  · obtain ⟨as, -, -, has⟩ := hrun 3 _ rfl
    exact ⟨_, as, rfl, has⟩

end Criteria.State
