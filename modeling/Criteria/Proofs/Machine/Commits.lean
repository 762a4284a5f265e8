import Criteria.Proofs.Machine.Runs

/-!
# What becomes of the committed expressions

Most actions move a machine on and leave the filter that it shows as it was. `State.change` says
which ones do not: a value that is confirmed commits an expression, deleting it takes the
expression back, and clearing and resetting drop them all. The states store the filter with its
pending connector in some steps and without in the others, so each move has to put that connector
on or take it off.
-/

namespace Criteria

inductive Change where
  | keep
  /-- One expression more. `joint` is the connector that joins the others to it. -/
  | commit (joint : Option Connector) (condition : Condition)
  /-- The last expression is taken back. -/
  | withdraw
  | empty

def Change.on (es : Filter) : Change → Filter
  | keep => es
  | commit joint condition => es.withLast joint ++ [⟨condition, none⟩]
  | withdraw => Filter.withLast none es.dropLast
  | empty => []

namespace State

open Criteria.Filter (Linked Awaits)

def change (s : State) : Action → Change
  | .confirmValue value =>
    match s.field?, s.operator? with
    | some field, some operator => .commit s.pending? ⟨field, operator, value⟩
    | _, _ => .keep
  | .deleteLast => if s.step = .selectingConnector then .withdraw else .keep
  | .clear | .reset => .empty
  | _ => .keep

/-- The changes that actions make one after the other. An action that is ignored makes none. -/
def changes (s : State) : List Action → List Change
  | [] => []
  | a :: as =>
    (if s.canApply a = .ok true then s.change a else .keep) ::
      (s.after (.transition a)).changes as

structure Commits (s : State) (a : Action) (s' : State) : Prop where
  filter : s'.filter = (s.change a).on s.filter
  confirmed : ∀ value, a = .confirmValue value → ∃ field operator,
    s.field? = some field ∧ s.operator? = some operator ∧
      s.change a = .commit s.pending? ⟨field, operator, value⟩
  idle : a = .blur ∨ a = .complete → s' = .idle s.filter
  cleared : a = .clear → s'.step = s.step ∧ s'.expressions = [] ∧ s'.pending? = none ∧
    s'.field? = none ∧ s'.operator? = none

section
variable {s s' : State} {a : Action} {es : Filter}

-- ---------------------------------------------------------------------------
-- The filter as it is seen
-- ---------------------------------------------------------------------------

theorem WellFormed.withLast_filter (hs : s.WellFormed) :
    s.filter.withLast s.pending? = s.expressions := by
  rw [State.filter, Filter.withLast_withLast]
  cases s with
  | idle | selectingConnector => exact Linked.withLast_none hs
  | selectingField | selectingOperator | enteringValue => exact Awaits.withLast_pending hs

@[simp] theorem cleared_step (s : State) : s.cleared.step = s.step := by
  cases s <;> rfl

@[simp] theorem cleared_pending? (s : State) : s.cleared.pending? = none := by
  cases s <;> rfl

@[simp] theorem cleared_operator? (s : State) : s.cleared.operator? = none := by
  cases s <;> rfl

-- ---------------------------------------------------------------------------
-- One action
-- ---------------------------------------------------------------------------

theorem Moves.filter_eq (h : Moves s a s') (hs : s.WellFormed) :
    s'.filter = (s.change a).on s.filter := by
  cases h with
  | begin => rfl
  | resume => exact Filter.withLast_withLast
  | blur => exact Filter.withLast_withLast
  | selectField => rfl
  | selectOperator => rfl
  | @confirmValue es pending field operator value =>
    show Filter.withLast none (es ++ [⟨⟨field, operator, value⟩, none⟩]) =
      (enteringValue es pending _ _).filter.withLast pending ++ [⟨⟨field, operator, value⟩, none⟩]
    exact Filter.withLast_concat.trans (congrArg (· ++ _) hs.withLast_filter.symm)
  | selectConnector => exact Filter.withLast_withLast
  | complete => rfl
  | deleteConnector => exact Filter.withLast_withLast
  | deleteField => rfl
  | deleteOperator => rfl
  | @deleteValue es e =>
    show Filter.withLast none es = Filter.withLast none (Filter.withLast none (es ++ [e])).dropLast
    rw [Filter.withLast_concat, List.dropLast_concat]
  | clear => rw [State.filter, cleared_expressions]; rfl
  | reset => rfl

theorem Moves.change_confirmValue (h : Moves s (.confirmValue value) s') :
    ∃ field operator, s.field? = some field ∧ s.operator? = some operator ∧
      s.change (.confirmValue value) = .commit s.pending? ⟨field, operator, value⟩ := by
  cases h
  exact ⟨_, _, rfl, rfl, rfl⟩

theorem Moves.eq_idle (h : Moves s a s') (hs : s.WellFormed) (ha : a = .blur ∨ a = .complete) :
    s' = .idle s.filter := by
  obtain rfl | rfl := ha
  · cases h
    rfl
  · cases h
    exact congrArg State.idle (Linked.withLast_none hs).symm

theorem Moves.commits (h : Moves s a s') (hs : s.WellFormed) : s.Commits a s' where
  filter := h.filter_eq hs
  confirmed := by
    rintro value rfl
    exact h.change_confirmValue
  idle := h.eq_idle hs
  cleared := by
    rintro rfl
    cases h
    exact ⟨cleared_step s, cleared_expressions s, cleared_pending? s, cleared_field? s,
      cleared_operator? s⟩

-- ---------------------------------------------------------------------------
-- Runs
-- ---------------------------------------------------------------------------

theorem filter_after (hs : s.WellFormed) (a : Action) :
    (s.after (.transition a)).filter = Change.on s.filter
      (if s.canApply a = .ok true then s.change a else .keep) := by
  rcases transition_cases hs a with ⟨s', hm, ha⟩ | ⟨r, hr, ht⟩ | ⟨hc, ht⟩
  · rw [after_transition, ha.transition, if_pos (canApply_true_iff.mpr hm.refusal?)]
    exact hm.filter_eq hs
  · have hcan : s.canApply a = .ok false := canApply_false_iff.mpr ⟨r, hr⟩
    rw [after_transition, ht, hcan]
    rfl
  · have hcan : s.canApply a = .error .digitLimit := canApply_error_iff.mpr ⟨rfl, hc⟩
    rw [after_transition, ht, hcan]
    rfl

theorem filter_run (hs : s.WellFormed) (as : List Action) :
    (s.run (as.map .transition)).filter = (s.changes as).foldl Change.on s.filter := by
  induction as generalizing s with
  | nil => rfl
  | cons a as ih =>
    rw [changes, List.foldl_cons, ← filter_after hs]
    exact ih (after_wellFormed hs _)

/-- Wherever a machine got to, an action that is applied makes its change to the filter and no
other one, and a run of actions makes their changes one after the other. -/
theorem actions_change_filter (hs : s.Reachable) :
    (∀ a s', s.Applies a s' → s.Commits a s') ∧
      ∀ as : List Action,
        (s.run (as.map .transition)).filter = (s.changes as).foldl Change.on s.filter :=
  ⟨fun _ _ h => ((applies_iff hs.wellFormed).mp h).commits hs.wellFormed, filter_run hs.wellFormed⟩

end

/-- An expression that is entered after an edited one, taken back and entered again. An action
that is ignored stands between them. -/
theorem actions_change_filter_retried :
    let size : FieldRef := { key := "size", label := "Size" }
    let is : OperatorRef := { key := "is", label := "is" }
    let small : Value := ⟨.text "small", "small", "small"⟩
    let large : Value := ⟨.text "large", "large", "large"⟩
    let s : State :=
      enteringValue [.plain "colour" "is" "blue" "AND"] (some "AND") (some size) (some is)
    let as : List Action :=
      [.confirmValue small, .selectField size, .deleteLast, .confirmValue large, .blur]
    s.Reachable ∧ s.filter = [.plain "colour" "is" "blue"] ∧
      (s.run (as.map .transition)).filter =
        [.plain "colour" "is" "blue" "AND", ⟨⟨size, is, large⟩, none⟩] := by
  intro size is small large s as
  have hs : s.Reachable :=
    ⟨[.plain "colour" "is" "red"], _,
      [.transition .focus, .edit (.value ⟨.text "blue", "blue", "blue"⟩) 0 none,
        .transition (.selectField size), .transition (.selectOperator is)], rfl, rfl⟩
  have hchanges : s.changes as = [.commit (some "AND") ⟨size, is, small⟩, .keep, .withdraw,
      .commit (some "AND") ⟨size, is, large⟩, .keep] := rfl
  refine ⟨hs, rfl, ?_⟩
  rw [(actions_change_filter hs).2 as, hchanges]
  rfl

end State

end Criteria
