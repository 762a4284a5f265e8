import Mathlib.Data.List.Nodup
import Criteria.Proofs.Data.Written
import Criteria.Proofs.Machine.Runs
import Criteria.Proofs.Wire.Origins

/-!
# What a machine says it will do

A machine tells whether an action would be applied and which kinds of action would be. Both
answers are read off a table and off what the step holds; what then happens is a move. The two
agree in every state that is reached, also in a step that was cleared and holds nothing. Among
the payloads only the connector matters.
-/

namespace Criteria

section
variable {s s' : State} {a : Action} {kind : ActionKind} {r : Refusal} {d : Data}

-- ---------------------------------------------------------------------------
-- Refusals
-- ---------------------------------------------------------------------------

theorem Connector.ofData?_ne_none_iff : ofData? d ≠ none ↔ ∃ c ∈ all, d = .text c := by
  constructor
  · intro h
    obtain ⟨c, hc⟩ := Option.ne_none_iff_exists'.mp h
    have hmem := mem_all_of_ofData? hc
    cases d with
    | text t =>
      obtain ⟨-, rfl⟩ : isKnown t ∧ t = c := by simpa [ofData?] using hc
      exact ⟨t, hmem, rfl⟩
    | _ => cases hc
  · rintro ⟨c, hmem, rfl⟩
    simp [ofData?_text hmem]

theorem Step.nodup_actions (step : Step) : step.actions.Nodup := by
  cases step <;> decide

namespace State

theorem refusal?_eq_none_iff :
    s.refusal? a = .ok none ↔
      s.missing? a.kind = none ∧ ∀ d, a = .selectConnector d → Connector.ofData? d ≠ none := by
  unfold State.refusal?
  cases hm : s.missing? a.kind with
  | some r => simp
  | none =>
    cases a with
    | selectConnector d =>
      cases hd : Connector.ofData? d with
      | some c => simp [hd]
      | none =>
        simp only [hd, Action.selectConnector.injEq, forall_eq', ne_eq, not_true_eq_false, and_false,
          iff_false]
        intro h
        obtain ⟨text, -, h⟩ := bind_ok.mp h
        cases h
    | _ => simp

-- ---------------------------------------------------------------------------
-- The kinds on offer
-- ---------------------------------------------------------------------------

theorem mem_available_iff : kind ∈ s.available ↔ s.missing? kind = none := by
  simp only [available, List.mem_filter, Option.isNone_iff_eq_none, and_iff_right_iff_imp]
  intro h
  exact List.contains_iff_mem.mp (allows_of_missing? h)

theorem nodup_available (s : State) : s.available.Nodup :=
  s.step.nodup_actions.filter _

theorem exists_action (h : s.missing? kind = none) :
    ∃ a : Action, a.kind = kind ∧ s.refusal? a = .ok none := by
  -- Any payload is in order except for a connector.
  obtain ⟨a, rfl, ha⟩ : ∃ a : Action, a.kind = kind ∧
      ∀ d, a = .selectConnector d → Connector.ofData? d ≠ none := by
    cases kind with
    | focus => exact ⟨.focus, rfl, nofun⟩
    | blur => exact ⟨.blur, rfl, nofun⟩
    | selectField => exact ⟨.selectField none, rfl, nofun⟩
    | selectOperator => exact ⟨.selectOperator none, rfl, nofun⟩
    | confirmValue => exact ⟨.confirmValue default, rfl, nofun⟩
    | selectConnector =>
      refine ⟨.selectConnector (.text Connector.implied), rfl, fun d hd => ?_⟩
      cases hd
      decide
    | complete => exact ⟨.complete, rfl, nofun⟩
    | deleteLast => exact ⟨.deleteLast, rfl, nofun⟩
    | clear => exact ⟨.clear, rfl, nofun⟩
    | reset => exact ⟨.reset, rfl, nofun⟩
  exact ⟨a, rfl, refusal?_eq_none_iff.mpr ⟨h, ha⟩⟩

-- ---------------------------------------------------------------------------
-- Foretelling
-- ---------------------------------------------------------------------------

/-- What a machine says about its next action is what then happens. -/
structure Foretells (s : State) : Prop where
  applies : ∀ a, s.canApply a = .ok true ↔ ∃ s', s.Applies a s'
  ignores : ∀ a, s.canApply a = .ok false ↔
    ∃ r, s.transition a = (.ok (.ignored a.kind s.step r), s)
  /-- Neither question nor action is answered where a connector is to be refused that cannot be
  written, and the state stays as well. -/
  asked : ∀ a f, s.canApply a = .error f ↔ f = .digitLimit ∧ s.CannotRefuse a
  fails : ∀ a failure s', s.transition a = (.error failure, s') ↔
    failure = .fault .digitLimit ∧ s.CannotRefuse a ∧ s' = s
  applied : ∀ a kind step s', s.transition a = (.ok (.applied kind step), s') →
    kind = a.kind ∧ step = s'.step
  ignored : ∀ a kind step r s', s.transition a = (.ok (.ignored kind step r), s') →
    kind = a.kind ∧ step = s.step ∧ s' = s
  listed : ∀ kind, kind ∈ s.available ↔ ∃ a s', a.kind = kind ∧ s.Applies a s'
  /-- A kind on offer is applied with whatever payload, a connector if it is a known one. -/
  payload : ∀ a, (∃ s', s.Applies a s') ↔
    a.kind ∈ s.available ∧ ∀ d, a = .selectConnector d → ∃ c ∈ Connector.all, d = .text c
  once : s.available.Nodup

theorem exists_applies_iff (hs : s.WellFormed) :
    (∃ s', s.Applies a s') ↔ s.refusal? a = .ok none := by
  simp only [applies_iff hs]
  exact ⟨fun ⟨_, h⟩ => h.refusal?, exists_moves⟩

theorem foretells_of_wellFormed (hs : s.WellFormed) : s.Foretells where
  applies a := canApply_true_iff.trans (exists_applies_iff hs).symm
  ignores a := by
    simp only [canApply_false_iff, transition_ignored_iff hs, and_true]
  asked a f := canApply_error_iff
  fails a failure s' := transition_error_iff hs
  applied a kind step s' h := by
    obtain ⟨hkind, hstep, -⟩ := (transition_applied_iff hs).mp h
    exact ⟨hkind, hstep⟩
  ignored a kind step r s' h := ((transition_ignored_iff hs).mp h).2
  listed kind := by
    rw [mem_available_iff]
    constructor
    · intro h
      obtain ⟨a, hk, ha⟩ := exists_action h
      obtain ⟨s', hs'⟩ := (exists_applies_iff hs).mpr ha
      exact ⟨a, s', hk, hs'⟩
    · rintro ⟨a, s', rfl, h⟩
      exact (refusal?_eq_none_iff.mp ((exists_applies_iff hs).mp ⟨s', h⟩)).1
  payload a := by
    simp only [exists_applies_iff hs, refusal?_eq_none_iff, mem_available_iff,
      Connector.ofData?_ne_none_iff]
  once := s.nodup_available

/-- Wherever a machine got to, what it says it can do is what it does, and what it refuses
changes nothing. -/
theorem announcements_hold (hs : s.Reachable) : s.Foretells :=
  foretells_of_wellFormed hs.wellFormed

/-- A cleared step has no field to take an operator for. -/
theorem announcements_hold_hollow :
    let s : State := selectingOperator [] none none
    s.Reachable ∧ (¬ ∃ a s', a.kind = .selectOperator ∧ s.Applies a s') ∧
      ∃ a s', a.kind = .deleteLast ∧ s.Applies a s' := by
  intro s
  have hs : s.Reachable :=
    ⟨[.plain "colour" "is" "red"], _,
      [.transition .focus, .transition (.selectField none), .clear], rfl, rfl⟩
  have hannounced : s.Foretells := announcements_hold hs
  exact ⟨hs, fun h => absurd ((hannounced.listed _).mpr h) (by decide),
    (hannounced.listed .deleteLast).mp (by decide)⟩

end State

end

end Criteria
