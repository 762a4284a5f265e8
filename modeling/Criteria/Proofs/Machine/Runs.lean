import Criteria.Proofs.Machine.Edits

/-!
# Runs of the filter machine

An operation is anything a host can do to a machine. One operation keeps a state well formed
(`Operation.perform_cases`), so every state of a run is: the check after each operation
never finds a breach. Loading fails on a filter that does not stand on its own. Any other
operation is answered, unless it is refused for a reason that would quote a number with more
digits than are ever written. An operation that fails leaves the state as it was.
-/

namespace Criteria

def Expression.plain (field operator value : String) (connector : Option Connector := none) :
    Expression where
  condition := ⟨{ key := field, label := field }, { key := operator, label := operator },
    ⟨.text value, value, value⟩⟩
  connector := connector

inductive Operation where
  | transition (action : Action)
  | clear
  | reset
  | load (expressions : Filter)
  | edit (edit : Edit) (index : Int) (schema : Option Schema)

namespace Operation

/-- The operation is carried out on the state. Of what it answers only a failure is kept. -/
def perform (s : State) : Operation → Except State.Failure Unit × State
  | transition a => Prod.map (·.map fun _ => ()) id (s.transition a)
  | clear => (.ok (), s.cleared)
  | reset => (.ok (), .idle [])
  | load es => s.load es
  | edit e index schema => Prod.map (·.map fun _ => ()) id (s.edit e index schema)

inductive Fails (s : State) : Operation → State.Failure → Prop
  | load {es : Filter} (h : es.linkProblem? = some problem) :
      Fails s (.load es) (.notLinked problem)
  | transition (h : s.CannotRefuse a) : Fails s (.transition a) (.fault .digitLimit)
  | edit (h : e.CannotReport s.expressions index schema) :
      Fails s (.edit e index schema) (.fault .digitLimit)

end Operation

namespace State

def after (s : State) (op : Operation) : State := (op.perform s).2

def run (s : State) (ops : List Operation) : State := ops.foldl after s

@[simp] theorem after_transition (s : State) (a : Action) :
    s.after (.transition a) = (s.transition a).2 := rfl

@[simp] theorem after_edit (s : State) (e : Edit) (index : Int) (schema : Option Schema) :
    s.after (.edit e index schema) = (s.edit e index schema).2 := rfl

/-- A state that some machine gets to, whatever was loaded into it and done to it. -/
def Reachable (s : State) : Prop := ∃ es s₀ ops, start es = .ok s₀ ∧ s₀.run ops = s

end State

section
variable {s s' : State} {op : Operation} {es : Filter} {failure : State.Failure}

-- ---------------------------------------------------------------------------
-- One operation
-- ---------------------------------------------------------------------------

namespace Operation

theorem Fails.perform (h : op.Fails s failure) : op.perform s = (.error failure, s) := by
  cases h with
  | load h => exact State.load_error h
  | transition h =>
    rw [Operation.perform,
      State.transition_of_refusal?_error (State.refusal?_error_iff.mpr ⟨rfl, h⟩)]
    rfl
  | edit h =>
    rw [Operation.perform, State.edit_of_apply_error (Edit.apply_error_iff.mpr ⟨rfl, h⟩)]
    rfl

/-- On a well-formed state an operation leads to a well-formed state, or it fails and changes
nothing. -/
theorem perform_cases (hs : s.WellFormed) (op : Operation) :
    (∃ s', op.perform s = (.ok (), s') ∧ s'.WellFormed) ∨ ∃ failure, op.Fails s failure := by
  cases op with
  | transition a =>
    rcases State.transition_cases hs a with ⟨s', hm, ha⟩ | ⟨r, -, hr⟩ | ⟨hc, -⟩
    · exact .inl ⟨s', by rw [perform, ha.transition]; rfl, hm.wellFormed hs⟩
    · exact .inl ⟨s, by rw [perform, hr]; rfl, hs⟩
    · exact .inr ⟨_, .transition hc⟩
  | clear => exact .inl ⟨_, rfl, s.cleared_wellFormed⟩
  | reset => exact .inl ⟨_, rfl, Filter.linked_nil⟩
  | load es =>
    cases h : es.linkProblem? with
    | some problem => exact .inr ⟨_, .load h⟩
    | none => exact .inl (State.load_ok h)
  | edit e index schema =>
    rcases State.edit_cases hs e index schema with ⟨r, s', he, hw⟩ | ⟨hc, -⟩
    · exact .inl ⟨s', by rw [perform, he]; rfl, hw⟩
    · exact .inr ⟨_, .edit hc⟩

theorem perform_error_iff (hs : s.WellFormed) :
    op.perform s = (.error failure, s') ↔ op.Fails s failure ∧ s' = s := by
  constructor
  · intro h
    rcases perform_cases hs op with ⟨t, hp, -⟩ | ⟨failure', hf⟩
    · cases hp.symm.trans h
    · cases hf.perform.symm.trans h
      exact ⟨hf, rfl⟩
  · rintro ⟨hf, rfl⟩
    exact hf.perform

end Operation

-- ---------------------------------------------------------------------------
-- Runs
-- ---------------------------------------------------------------------------

namespace State

theorem after_wellFormed (hs : s.WellFormed) (op : Operation) : (s.after op).WellFormed := by
  rcases Operation.perform_cases hs op with ⟨s', hp, hw⟩ | ⟨failure, hf⟩
  · rwa [after, hp]
  · rwa [after, hf.perform]

theorem run_wellFormed (hs : s.WellFormed) (ops : List Operation) : (s.run ops).WellFormed := by
  induction ops generalizing s with
  | nil => exact hs
  | cons op ops ih => exact ih (after_wellFormed hs op)

theorem start_wellFormed (h : start es = .ok s) : s.WellFormed := by
  unfold start at h
  cases hl : es.linkProblem? with
  | some problem =>
    rw [load_error hl] at h
    cases h
  | none =>
    obtain ⟨s', hs', hw⟩ := load_ok (s := idle []) hl
    rw [hs'] at h
    cases h
    exact hw

theorem Reachable.wellFormed (h : s.Reachable) : s.WellFormed := by
  obtain ⟨es, s₀, ops, hstart, rfl⟩ := h
  exact run_wellFormed (start_wellFormed hstart) ops

/-- Whatever is loaded into a machine and done to it, its state passes the check, and the
next operation never breaks the machine. It fails only if it loads a filter that does not
stand on its own or cannot word its refusal, and then the state stays. -/
theorem run_keeps_invariant (h : start es = .ok s₀) (ops : List Operation) :
    (s₀.run ops).violation? = none ∧ (s₀.run ops).WellFormed ∧
      ∀ (op : Operation) (s' : State),
        (∀ b, op.perform (s₀.run ops) ≠ (.error (.breakdown b), s')) ∧
        (∀ problem, op.perform (s₀.run ops) = (.error (.notLinked problem), s') ↔
          (∃ fs, op = .load fs ∧ fs.linkProblem? = some problem) ∧ s' = s₀.run ops) ∧
        ∀ failure, op.perform (s₀.run ops) = (.error failure, s') ↔
          op.Fails (s₀.run ops) failure ∧ s' = s₀.run ops := by
  have hw : (s₀.run ops).WellFormed := run_wellFormed (start_wellFormed h) ops
  refine ⟨violation?_eq_none_iff.mpr hw, hw, fun op s' => ⟨fun b hb => ?_, fun problem => ?_, ?_⟩⟩
  · cases ((Operation.perform_error_iff hw).mp hb).1
  · refine (Operation.perform_error_iff hw).trans (and_congr_left fun _ => ?_)
    constructor
    · rintro ⟨hl⟩
      exact ⟨_, rfl, hl⟩
    · rintro ⟨fs, rfl, hl⟩
      exact .load hl
  · exact fun failure => Operation.perform_error_iff hw

/-- Editing, loading and clearing in the middle of an expression, and loading a filter that does not
stand on its own. -/
theorem run_keeps_invariant_mixed :
    let es : Filter := [.plain "colour" "is" "red" "OR", .plain "size" "is" "small"]
    let ops : List Operation :=
      [.transition .focus, .transition (.selectField none), .edit .delete 1 none,
        .edit (.connector (.text "XOR")) 0 none, .load [.plain "size" "is" "large"], .clear,
        .transition .deleteLast, .load es.reverse, .load es, .edit .delete (-1) none]
    start es = .ok (idle es) ∧ ((idle es).run ops).violation? = none ∧
      ∃ failure, (Operation.load es.reverse).perform ((idle es).run ops) =
        (.error failure, (idle es).run ops) := by
  intro es ops
  have h : start es = .ok (idle es) := rfl
  obtain ⟨hv, -, hnext⟩ := run_keeps_invariant h ops
  exact ⟨h, hv, _, ((hnext (.load es.reverse) _).2.1 _).mpr ⟨⟨_, rfl, rfl⟩, rfl⟩⟩

/-- Loading is not the only operation that fails. An edit fails too if it asks for a range from a larger
to a smaller number and the larger one is too long to be written. -/
theorem run_stops_at_long_range :
    let n : Int := (10 ^ Numeral.digitLimit : Nat)
    let op : Operator :=
      { key := "between", label := "between", multiValue := some { count := .number 2 } }
    let age : Field := { key := "age", label := "Age", type := "number", operators := [op] }
    let schema : Schema := { fields := [age] }
    let es : Filter := [⟨⟨age.ref, op.ref, ⟨.list [.int 1, .int 2], "[1, 2]", "[1, 2]"⟩⟩, none⟩]
    let edit : Operation := .edit (.value ⟨.list [.int n, .int 0], "", ""⟩) 0 (some schema)
    start es = .ok (idle es) ∧
      edit.perform (idle es) = (.error (.fault .digitLimit), idle es) := by
  intro n op age schema es edit
  have hpositive : 0 < n := Int.lt_trans (by decide) Numeral.one_lt_pow_digitLimit
  have hlong : (Data.int n).Unwritable := Data.unwritable_pow
  -- The number itself is never computed.
  clear_value n
  refine ⟨rfl, Operation.Fails.perform (.edit ?_)⟩
  exact Edit.cannotReport_of_long_range (i := 0) rfl rfl rfl rfl rfl rfl hpositive hlong

end State

end

end Criteria
