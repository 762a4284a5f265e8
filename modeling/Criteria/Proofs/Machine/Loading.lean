import Criteria.Proofs.Machine.Runs
import Criteria.Proofs.Wire.Origins

/-!
# Loading what was saved

A filter that is taken out of a machine stands on its own, and so does one that was restored
from data or from a query string. Such a filter can be loaded into any machine (`Takes`). What
is being built there goes on; only the connector that joins it to what was loaded has to be
found: the pending one if there is one, else the implied one.
-/

namespace Criteria

open Criteria.Filter (Linked)

namespace State

structure Takes (s : State) (es : Filter) (s' : State) : Prop where
  loads : s.load es = (.ok (), s')
  step : s'.step = s.step
  field : s'.field? = s.field?
  operator : s'.operator? = s.operator?
  filter : s'.filter = es
  unjoined : es = [] ∨ s.step.isBuilding = false → s'.pending? = none
  /-- A pending connector stays pending unless its text is empty. -/
  pending : es ≠ [] → s.step.isBuilding = true → ∀ c, s.pending? = some c → c ≠ "" →
    s'.pending? = some c
  implied : es ≠ [] → s.step.isBuilding = true → (∀ c, s.pending? = some c → c = "") →
    s'.pending? = some Connector.implied

section
variable {s t : State} {es : Filter} {c : Connector}

-- ---------------------------------------------------------------------------
-- Other expressions in the same state
-- ---------------------------------------------------------------------------

@[simp] theorem withExpressions_expressions : (s.withExpressions es).expressions = es := by
  cases s <;> rfl

@[simp] theorem withExpressions_step : (s.withExpressions es).step = s.step := by
  cases s <;> rfl

@[simp] theorem withExpressions_field? : (s.withExpressions es).field? = s.field? := by
  cases s <;> rfl

@[simp] theorem withExpressions_operator? : (s.withExpressions es).operator? = s.operator? := by
  cases s <;> rfl

theorem withExpressions_pending? : (s.withExpressions es).pending? =
    if s.step.isBuilding then es.lastConnector? else none := by
  cases s <;> rfl

theorem lastConnector?_withLast (hne : es ≠ []) (c : Option Connector) :
    (es.withLast c).lastConnector? = c := by
  obtain ⟨front, last, rfl⟩ := (Filter.eq_nil_or_append es).resolve_left hne
  simp

-- ---------------------------------------------------------------------------
-- The connector in front of what is being built
-- ---------------------------------------------------------------------------

theorem loadConnector_of_pending (hp : s.pending? = some c) (hc : c ≠ "") :
    s.loadConnector = c := by
  simp [loadConnector, hp, hc]

theorem loadConnector_of_empty (h : ∀ c, s.pending? = some c → c = "") :
    s.loadConnector = Connector.implied := by
  unfold loadConnector
  split
  next c hp => simp [h c hp]
  next => rfl

-- ---------------------------------------------------------------------------
-- Loading
-- ---------------------------------------------------------------------------

theorem load_eq (hl : Linked es) : s.load es = (.ok (), s.withExpressions
    (if s.step.isBuilding then es.withLast s.loadConnector else es)) := by
  have hp : es.linkProblem? = none := Filter.linkProblem?_eq_none_iff.mpr hl
  have hw : (s.withExpressions
      (if s.step.isBuilding then es.withLast s.loadConnector else es)).WellFormed := by
    refine withExpressions_wellFormed (fun hb => ?_) fun hb => ?_
    · simpa [hb] using hl
    · rw [if_pos hb]
      exact awaits_loaded hl _
  simp only [load, hp, enter_of_wellFormed hw]

theorem takes_of_linked (s : State) (hl : Linked es) : ∃ s', s.Takes es s' := by
  refine ⟨_, load_eq hl, by simp, by simp, by simp, ?filter, ?unjoined, ?pending, ?implied⟩
  case filter =>
    rw [State.filter, withExpressions_expressions]
    split
    · rw [Filter.withLast_withLast, hl.withLast_none]
    · exact hl.withLast_none
  case unjoined =>
    rw [withExpressions_pending?]
    rintro (rfl | hb)
    · simp [Filter.lastConnector?]
    · simp [hb]
  case pending =>
    intro hne hb c hp hc
    rw [withExpressions_pending?, if_pos hb, if_pos hb, lastConnector?_withLast hne,
      loadConnector_of_pending hp hc]
  case implied =>
    intro hne hb hp
    rw [withExpressions_pending?, if_pos hb, if_pos hb, lastConnector?_withLast hne,
      loadConnector_of_empty hp]

theorem filter_linked (h : t.WellFormed) : Linked t.filter :=
  h.connected.linked_withLast

end

/-- Every machine takes over the filter of every other one, and every filter that was restored
by whatever schema from whatever data or query. -/
theorem load_takes_saved (s : State) :
    (∀ t : State, t.Reachable → ∃ s', s.Takes t.filter s') ∧
      (∀ (schema : Schema) data options r, schema.restoreFilter data options = .ok r →
        ∃ s', s.Takes r.expressions s') ∧
      ∀ (schema : Schema) query, ∃ s', s.Takes (schema.restoreQuery query).expressions s' :=
  ⟨fun _ ht => takes_of_linked s (filter_linked ht.wellFormed),
    fun _ _ _ _ hr => takes_of_linked s (restoreFilter_linked hr),
    fun schema query => takes_of_linked s (restoreQuery_linked schema query)⟩

/-- A filter that was being built on is taken over where a value is being entered. The connector
that was pending there takes the place of its own. -/
theorem load_takes_saved_pending :
    let colour : FieldRef := { key := "colour", label := "Colour" }
    let isOp : OperatorRef := { key := "is", label := "is" }
    let t : State := selectingField [.plain "size" "is" "small" "OR"] (some "OR")
    let s : State := enteringValue [.plain "weight" "is" "5" "AND"] (some "AND") (some colour)
      (some isOp)
    t.Reachable ∧ s.Reachable ∧ s.Takes t.filter
      (enteringValue [.plain "size" "is" "small" "AND"] (some "AND") (some colour) (some isOp)) := by
  intro colour isOp t s
  have ht : t.Reachable :=
    ⟨[.plain "size" "is" "small"], _,
      [.transition .focus, .transition .deleteLast,
        .transition (.selectConnector (.text "OR"))], rfl, rfl⟩
  have hs : s.Reachable :=
    ⟨[.plain "weight" "is" "5"], _,
      [.transition .focus, .transition (.selectField colour),
        .transition (.selectOperator isOp)], rfl, rfl⟩
  obtain ⟨s', h⟩ := (load_takes_saved s).1 t ht
  obtain rfl : enteringValue [.plain "size" "is" "small" "AND"] (some "AND") (some colour)
      (some isOp) = s' := congrArg Prod.snd h.loads
  exact ⟨ht, hs, h⟩

end State

end Criteria
