import Criteria.Machine
import Criteria.Proofs.Data.Written
import Criteria.Proofs.Filter.Linked

/-!
# The moves of the filter machine

`Moves` lists the accepted transitions, one rule for each; it is the grammar of the machine
without its tables and guards. On a well-formed state an action is applied exactly if there
is a move for it, and is ignored otherwise (`transition_cases`). A move never leaves the
well-formed states, so the check of a new state never fails. What can fail is the wording of a
refusal, which quotes the connector that it refuses (`CannotRefuse`).
-/

namespace Criteria

def Action.isForward : Action → Bool
  | selectField _ | selectOperator _ | confirmValue _ | selectConnector _ => true
  | _ => false

theorem Connector.ofData?_unwritable {d : Data} (h : d.Unwritable) : ofData? d = none := by
  cases d with
  | text => cases h
  | _ => rfl

namespace State

open Criteria.Filter (Linked Awaits)

-- ---------------------------------------------------------------------------
-- Well-formed states
-- ---------------------------------------------------------------------------

/-- The connectors stand where the step needs them. While an expression is being built, the
last committed one carries the pending connector, and there is none only in front of the
first expression. In the other steps the committed filter stands on its own. -/
def WellFormed : State → Prop
  | idle es | selectingConnector es => Linked es
  | selectingField es pending | selectingOperator es pending _ | enteringValue es pending _ _ =>
    Awaits es pending

theorem firstGap?_eq_none_iff : firstGap? i es = none ↔ Filter.Connected es := by
  fun_induction firstGap? i es with
  | case1 => simp [Filter.Connected]
  | case2 => simp [Filter.Connected]
  | case3 i e rest hne hgap =>
    have hgap : e.connector = none := by simpa using hgap
    simp [Filter.connected_cons (e := e) (by simpa using hne), hgap]
  | case4 i e rest hne hgap ih =>
    have hgap : e.connector ≠ none := by simpa using hgap
    simp [Filter.connected_cons (e := e) (by simpa using hne), hgap, ih]

theorem violation?_concat {s : State} (he : s.expressions = front ++ [last]) :
    s.violation? = none ↔ s.expressions.Connected ∧ last.connector = s.pending? ∧
      (s.step.isBuilding = true → s.pending? ≠ none) := by
  simp only [violation?, he, List.getLast?_concat]
  cases hg : firstGap? 0 (front ++ [last]) with
  | some i =>
    have hc : ¬ Filter.Connected (front ++ [last]) :=
      fun h => by simp [firstGap?_eq_none_iff.mpr h] at hg
    simp [hc]
  | none =>
    have hc : Filter.Connected (front ++ [last]) := firstGap?_eq_none_iff.mp hg
    by_cases hl : last.connector = s.pending? <;> simp [hc, hl]

/-- The check of the machine accepts exactly the well-formed states. -/
theorem violation?_eq_none_iff {s : State} : s.violation? = none ↔ s.WellFormed := by
  cases s with
  | idle es | selectingConnector es =>
    rcases Filter.eq_nil_or_append es with rfl | ⟨front, last, rfl⟩
    · simp [violation?, pending?, expressions, WellFormed, Filter.linked_nil]
    · rw [violation?_concat rfl]
      simp [pending?, expressions, step, Step.isBuilding, WellFormed]
  | selectingField es pending | selectingOperator es pending | enteringValue es pending =>
    rcases Filter.eq_nil_or_append es with rfl | ⟨front, last, rfl⟩
    · simp [violation?, pending?, expressions, WellFormed, Filter.awaits_nil_iff]
    · rw [violation?_concat rfl]
      simp [pending?, expressions, step, Step.isBuilding, WellFormed, Filter.awaits_concat]

@[simp] theorem cleared_expressions (s : State) : s.cleared.expressions = [] := by
  cases s <;> rfl

@[simp] theorem cleared_field? (s : State) : s.cleared.field? = none := by
  cases s <;> rfl

theorem cleared_wellFormed (s : State) : s.cleared.WellFormed := by
  cases s with
  | idle | selectingConnector => exact Filter.linked_nil
  | selectingField | selectingOperator | enteringValue => exact Filter.awaits_nil

theorem WellFormed.connected {s : State} (h : s.WellFormed) : s.expressions.Connected := by
  cases s with
  | idle | selectingConnector => exact Linked.connected h
  | selectingField | selectingOperator | enteringValue => exact Awaits.connected h

-- ---------------------------------------------------------------------------
-- Moves
-- ---------------------------------------------------------------------------

/-- The accepted transitions. -/
inductive Moves : State → Action → State → Prop
  | begin : Moves (idle []) .focus (selectingField [] none)
  | resume {es : Filter} (hne : es ≠ []) :
      Moves (idle es) .focus
        (selectingField (es.withLast (some Connector.implied)) (some Connector.implied))
  | blur (hs : s.step ≠ .idle) : Moves s .blur (idle (s.expressions.withLast none))
  | selectField : Moves (selectingField es pending) (.selectField field)
      (selectingOperator es pending field)
  | selectOperator : Moves (selectingOperator es pending (some field)) (.selectOperator operator)
      (enteringValue es pending (some field) operator)
  | confirmValue :
      Moves (enteringValue es pending (some field) (some operator)) (.confirmValue value)
        (selectingConnector (es ++ [{ condition := { field, operator, value } }]))
  | selectConnector {es : Filter} (hne : es ≠ []) (hc : Connector.ofData? d = some c) :
      Moves (selectingConnector es) (.selectConnector d)
        (selectingField (es.withLast (some c)) (some c))
  | complete : Moves (selectingConnector es) .complete (idle es)
  | deleteConnector {es : Filter} (hne : es ≠ []) :
      Moves (selectingField es pending) .deleteLast (selectingConnector (es.withLast none))
  | deleteField : Moves (selectingOperator es pending field) .deleteLast (selectingField es pending)
  | deleteOperator : Moves (enteringValue es pending field operator) .deleteLast
      (selectingOperator es pending field)
  | deleteValue : Moves (selectingConnector (es ++ [e])) .deleteLast
      (enteringValue es es.lastConnector? e.field e.operator)
  | clear : Moves s .clear s.cleared
  | reset : Moves s .reset (idle [])

section
variable {s s' : State} {a : Action}

theorem Moves.refusal? (h : Moves s a s') : s.refusal? a = .ok none := by
  cases h with
  | blur hs => cases s <;> first | rfl | exact absurd rfl hs
  | selectConnector hne hc =>
    simp [State.refusal?, missing?, Action.kind, step, Step.allows, Step.actions, expressions,
      hne, hc]
  | deleteConnector hne =>
    obtain ⟨e, rest, rfl⟩ := List.exists_cons_of_ne_nil hne
    rfl
  | @deleteValue front => cases front <;> rfl
  | clear | reset => cases s <;> rfl
  | _ => rfl

theorem Moves.next? (h : Moves s a s') : s.next? a = some s' := by
  cases h with
  | resume hne => simp [State.next?, expressions, hne]
  | selectConnector hne hc => simp [State.next?, expressions, hc]
  | deleteValue => simp [State.next?, deletedLast?]
  | _ => rfl

theorem refusal?_of_connector? (hm : s.missing? .selectConnector = none)
    (hc : Connector.ofData? d = none) : s.refusal? (.selectConnector d) =
      (do return some (.invalidConnector (← d.shown))) := by
  simp only [State.refusal?, show Action.kind (.selectConnector d) = .selectConnector from rfl, hm,
    hc]

theorem missing?_of_refusal? (h : s.refusal? a = .ok none) : s.missing? a.kind = none := by
  unfold State.refusal? at h
  split at h
  · cases h
  · assumption
  · assumption

/-- A connector is to be refused, but the reason would quote what cannot be written. -/
def CannotRefuse (s : State) (a : Action) : Prop :=
  ∃ d, a = .selectConnector d ∧ s.missing? .selectConnector = none ∧ d.Unwritable

theorem refusal?_error_iff : s.refusal? a = .error f ↔ f = .digitLimit ∧ s.CannotRefuse a := by
  constructor
  · intro h
    unfold State.refusal? at h
    split at h
    · cases h
    case h_2 d hm =>
      split at h
      · cases h
      · rcases bind_error.mp h with h | ⟨text, -, h⟩
        · obtain ⟨hf, hd⟩ := Data.unwritable_of_error h
          exact ⟨hf, d, rfl, hm, hd⟩
        · cases h
    · cases h
  · rintro ⟨rfl, d, rfl, hm, hd⟩
    rw [refusal?_of_connector? hm (Connector.ofData?_unwritable hd)]
    exact bind_error_first hd

theorem canApply_true_iff : s.canApply a = .ok true ↔ s.refusal? a = .ok none := by
  refine bind_ok.trans ?_
  simp [pure_ok]

theorem canApply_false_iff : s.canApply a = .ok false ↔ ∃ r, s.refusal? a = .ok (some r) := by
  refine bind_ok.trans ⟨?_, fun ⟨r, hr⟩ => ⟨_, hr, rfl⟩⟩
  rintro ⟨_ | r, hr, h⟩
  · cases h
  · exact ⟨r, hr⟩

theorem canApply_error_iff : s.canApply a = .error f ↔ f = .digitLimit ∧ s.CannotRefuse a :=
  (bind_error_of_answers fun _ => answers_pure).trans refusal?_error_iff

theorem Moves.not_cannotRefuse (h : Moves s a s') : ¬ s.CannotRefuse a := fun hc => by
  cases h.refusal?.symm.trans (refusal?_error_iff.mpr ⟨rfl, hc⟩)

theorem allows_of_missing? (h : s.missing? k = none) : s.step.allows k = true := by
  unfold missing? at h
  by_cases ha : s.step.allows k = true
  · exact ha
  · simp [ha] at h

theorem exists_moves (h : s.refusal? a = .ok none) : ∃ s', Moves s a s' := by
  have hm := missing?_of_refusal? h
  have ha := allows_of_missing? hm
  cases a with
  | focus =>
    cases s with
    | idle es =>
      cases es with
      | nil => exact ⟨_, .begin⟩
      | cons => exact ⟨_, .resume (by simp)⟩
    | _ => cases ha
  | blur => exact ⟨_, .blur fun hs => by simp [hs, Action.kind, Step.allows, Step.actions] at ha⟩
  | selectField field =>
    cases s with
    | selectingField => exact ⟨_, .selectField⟩
    | _ => cases ha
  | selectOperator operator =>
    cases s with
    | selectingOperator es pending field =>
      cases field with
      | some => exact ⟨_, .selectOperator⟩
      | none => cases hm
    | _ => cases ha
  | confirmValue value =>
    cases s with
    | enteringValue es pending field operator =>
      cases field <;> cases operator
      case some.some => exact ⟨_, .confirmValue⟩
      all_goals cases hm
    | _ => cases ha
  | selectConnector d =>
    cases s with
    | selectingConnector es =>
      cases es with
      | nil => cases hm
      | cons e rest =>
        cases hc : Connector.ofData? d with
        | some c => exact ⟨_, .selectConnector (by simp) hc⟩
        | none =>
          rw [refusal?_of_connector? hm hc] at h
          obtain ⟨text, -, h⟩ := bind_ok.mp h
          cases h
    | _ => cases ha
  | complete =>
    cases s with
    | selectingConnector => exact ⟨_, .complete⟩
    | _ => cases ha
  | deleteLast =>
    cases s with
    | idle => cases ha
    | selectingField es =>
      cases es with
      | nil => cases hm
      | cons => exact ⟨_, .deleteConnector (by simp)⟩
    | selectingOperator => exact ⟨_, .deleteField⟩
    | enteringValue => exact ⟨_, .deleteOperator⟩
    | selectingConnector es =>
      rcases Filter.eq_nil_or_append es with rfl | ⟨front, last, rfl⟩
      · cases hm
      · exact ⟨_, .deleteValue⟩
  | clear => exact ⟨_, .clear⟩
  | reset => exact ⟨_, .reset⟩

theorem Moves.wellFormed (h : Moves s a s') (hs : s.WellFormed) : s'.WellFormed := by
  cases h with
  | begin => exact Filter.awaits_nil
  | resume hne => exact (Linked.connected hs).awaits_withLast hne
  | blur => exact hs.connected.linked_withLast
  | selectField => exact hs
  | selectOperator => exact hs
  | confirmValue => exact Filter.linked_concat.mpr ⟨Awaits.joined hs, rfl⟩
  | selectConnector hne => exact (Linked.connected hs).awaits_withLast hne
  | complete => exact hs
  | deleteConnector => exact (Awaits.connected hs).linked_withLast
  | deleteField => exact hs
  | deleteOperator => exact hs
  | deleteValue => exact Filter.awaits_of_joined (Filter.linked_concat.mp hs).1
  | clear => exact s.cleared_wellFormed
  | reset => exact Filter.linked_nil

-- ---------------------------------------------------------------------------
-- Transitions
-- ---------------------------------------------------------------------------

def Applies (s : State) (a : Action) (s' : State) : Prop :=
  s.transition a = (.ok (.applied a.kind s'.step), s')

theorem Applies.transition (h : s.Applies a s') :
    s.transition a = (.ok (.applied a.kind s'.step), s') := h

theorem enter_of_wellFormed {next : State} (h : next.WellFormed) (answer : α) :
    s.enter next answer = (.ok answer, next) := by
  simp only [enter, violation?_eq_none_iff.mpr h]

theorem Moves.applies_of_wellFormed (h : Moves s a s') (hs' : s'.WellFormed) : s.Applies a s' := by
  simp only [Applies, State.transition, h.refusal?, h.next?, enter_of_wellFormed hs']

theorem Moves.applies (h : Moves s a s') (hs : s.WellFormed) : s.Applies a s' :=
  h.applies_of_wellFormed (h.wellFormed hs)

theorem transition_of_refusal? (h : s.refusal? a = .ok (some r)) :
    s.transition a = (.ok (.ignored a.kind s.step r), s) := by
  simp only [State.transition, h]

theorem transition_of_refusal?_error (h : s.refusal? a = .error f) :
    s.transition a = (.error (.fault f), s) := by
  simp only [State.transition, h]

/-- On a well-formed state a transition applies an action by its move, or ignores it and changes
nothing, or fails because it cannot word the refusal, and changes nothing either. -/
theorem transition_cases (hs : s.WellFormed) (a : Action) :
    (∃ s', Moves s a s' ∧ s.Applies a s') ∨
      (∃ r, s.refusal? a = .ok (some r) ∧
        s.transition a = (.ok (.ignored a.kind s.step r), s)) ∨
      s.CannotRefuse a ∧ s.transition a = (.error (.fault .digitLimit), s) := by
  cases hr : s.refusal? a with
  | error f =>
    obtain ⟨rfl, hc⟩ := refusal?_error_iff.mp hr
    exact .inr (.inr ⟨hc, transition_of_refusal?_error hr⟩)
  | ok r? =>
    cases r? with
    | none =>
      obtain ⟨s', hm⟩ := exists_moves hr
      exact .inl ⟨s', hm, hm.applies hs⟩
    | some r => exact .inr (.inl ⟨r, rfl, transition_of_refusal? hr⟩)

theorem transition_applied_iff (hs : s.WellFormed) :
    s.transition a = (.ok (.applied kind st), s') ↔
      kind = a.kind ∧ st = s'.step ∧ Moves s a s' := by
  constructor
  · intro h
    rcases transition_cases hs a with ⟨t, hm, ht⟩ | ⟨r, -, hr⟩ | ⟨-, hf⟩
    · cases ht.transition.symm.trans h
      exact ⟨rfl, rfl, hm⟩
    · cases hr.symm.trans h
    · cases hf.symm.trans h
  · rintro ⟨rfl, rfl, hm⟩
    exact hm.applies hs

theorem transition_ignored_iff (hs : s.WellFormed) :
    s.transition a = (.ok (.ignored kind st r), s') ↔
      s.refusal? a = .ok (some r) ∧ kind = a.kind ∧ st = s.step ∧ s' = s := by
  constructor
  · intro h
    rcases transition_cases hs a with ⟨t, -, ht⟩ | ⟨r', hr', hr⟩ | ⟨-, hf⟩
    · cases ht.transition.symm.trans h
    · cases hr.symm.trans h
      exact ⟨hr', rfl, rfl, rfl⟩
    · cases hf.symm.trans h
  · rintro ⟨hr, rfl, rfl, rfl⟩
    exact transition_of_refusal? hr

theorem transition_error_iff {failure : Failure} (hs : s.WellFormed) :
    s.transition a = (.error failure, s') ↔
      failure = .fault .digitLimit ∧ s.CannotRefuse a ∧ s' = s := by
  constructor
  · intro h
    rcases transition_cases hs a with ⟨t, -, ht⟩ | ⟨r, -, hr⟩ | ⟨hc, hf⟩
    · cases ht.transition.symm.trans h
    · cases hr.symm.trans h
    · cases hf.symm.trans h
      exact ⟨rfl, hc, rfl⟩
  · rintro ⟨rfl, hc, rfl⟩
    exact transition_of_refusal?_error (refusal?_error_iff.mpr ⟨rfl, hc⟩)

theorem applies_iff (hs : s.WellFormed) : s.Applies a s' ↔ Moves s a s' := by
  refine (transition_applied_iff hs).trans ?_
  simp

end

end State

end Criteria
