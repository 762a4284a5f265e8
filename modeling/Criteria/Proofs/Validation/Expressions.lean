import Criteria.Validation
import Criteria.Proofs.Data.Written

/-!
# What the check of one expression finds

An expression passes the check if its field and its operator are known, its raw value fits
the operator, and no hook objects (`validateExpression_isValid_iff`). The check itself can
only end in a fault when the value has a problem that quotes a number too long to be written
(`validateExpression_error`).
-/

namespace Criteria

def ValueProblem.quoted : ValueProblem → List Data
  | wrongCount (.number n) _ => [.int n]
  | inverted low high => [low, high]
  | _ => []

theorem ValueProblem.message_error {p : ValueProblem} (h : p.message field operator = .error f) :
    f = .digitLimit ∧ ∃ d ∈ p.quoted, d.Unwritable := by
  cases p with
  | missing | notList | noValues => cases h
  | wrongCount expected actual =>
    cases expected with
    | flag b => cases h
    | number n =>
      rcases bind_error.mp h with h | ⟨text, -, h⟩
      · obtain ⟨hf, hn⟩ := Data.unwritable_of_error (d := .int n) h
        exact ⟨hf, _, .head _, hn⟩
      · cases h
  | inverted low high =>
    rcases bind_error.mp h with h | ⟨text, -, h⟩
    · obtain ⟨hf, hlow⟩ := Data.unwritable_of_error h
      exact ⟨hf, low, .head _, hlow⟩
    · rcases bind_error.mp h with h | ⟨text, -, h⟩
      · obtain ⟨hf, hhigh⟩ := Data.unwritable_of_error h
        exact ⟨hf, high, .tail _ (.head _), hhigh⟩
      · cases h

@[simp] theorem Report.isValid_ofError (p : Problem) : (Report.ofError p).isValid = false := rfl

theorem Field.operator?_mem {f : Field} (h : f.operator? key = some op) : op ∈ f.operators :=
  List.mem_of_find?_eq_some h

namespace Schema

variable {s : Schema} {e : Expression} {index : Option Int} {context : Filter}

/-- The value of an expression has a problem that cannot be worded. -/
def CannotReport (s : Schema) (e : Expression) : Prop :=
  ∃ field op problem, s.field? e.field.key = some field ∧
    field.operator? e.operator.key = some op ∧
    valueProblem? field op e.value.raw = some problem ∧ ∃ d ∈ problem.quoted, d.Unwritable

theorem validateExpression_error (h : s.validateExpression e index context = .error f) :
    f = .digitLimit ∧ s.CannotReport e := by
  simp only [validateExpression] at h
  split at h
  · cases h
  next field hf =>
    split at h
    · cases h
    next op ho =>
      split at h
      next problem hv =>
        rcases bind_error.mp h with h | ⟨text, -, h⟩
        · obtain ⟨hlimit, hquoted⟩ := ValueProblem.message_error h
          exact ⟨hlimit, field, op, problem, hf, ho, hv, hquoted⟩
        · cases h
      · cases h

/-- The field of a condition is known, the operator is one of its operators, and the raw
value fits them. -/
def Admits (s : Schema) (c : Condition) : Prop :=
  ∃ field op, s.field? c.field.key = some field ∧ field.operator? c.operator.key = some op ∧
    valueProblem? field op c.value.raw = none

theorem validateExpression_isValid_iff :
    (∃ r, s.validateExpression e index context = .ok r ∧ r.isValid = true) ↔
      ∃ field op, s.field? e.field.key = some field ∧ field.operator? e.operator.key = some op ∧
        valueProblem? field op e.value.raw = none ∧
        (s.hookReport field op e index context).isValid = true := by
  simp only [validateExpression]
  cases hf : s.field? e.field.key with
  | none => simp
  | some field =>
    cases ho : field.operator? e.operator.key with
    | none => simp [ho]
    | some op =>
      cases hv : valueProblem? field op e.value.raw with
      | none => simp [ho, hv]
      | some problem =>
        constructor
        · rintro ⟨r, hr, hvalid⟩
          simp only [ho, hv, bind_ok, pure_ok] at hr
          obtain ⟨message, -, rfl⟩ := hr
          simp at hvalid
        · rintro ⟨field', op', hf', ho', hv', -⟩
          cases hf'
          cases ho.symm.trans ho'
          cases hv.symm.trans hv'

/-- No check of the schema, of a field or of an operator is left to a hook. -/
structure Unhooked (s : Schema) : Prop where
  schema : s.check = none
  fields : ∀ f ∈ s.fields, f.check = none
  operators : ∀ f ∈ s.fields, ∀ op ∈ f.operators, op.check = none

theorem field?_mem (h : s.field? key = some f) : f ∈ s.fields := List.mem_of_find?_eq_some h

theorem hookReport_of_unhooked (hs : s.Unhooked) (hf : s.field? key = some field)
    (ho : field.operator? opKey = some op) : s.hookReport field op e index context = {} := by
  have hfield := hs.fields field (field?_mem hf)
  have hop := hs.operators field (field?_mem hf) op (Field.operator?_mem ho)
  simp [hookReport, hfield, hop, Report.untilError]

theorem validateExpression_of_admits (hs : s.Unhooked) (h : s.Admits e.condition) :
    ∃ r, s.validateExpression e index context = .ok r ∧ r.isValid = true := by
  obtain ⟨field, op, hf, ho, hv⟩ := h
  refine validateExpression_isValid_iff.mpr ⟨field, op, hf, ho, hv, ?_⟩
  rw [hookReport_of_unhooked hs hf ho]
  rfl

end Schema

end Criteria
