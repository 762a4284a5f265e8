import Criteria.Proofs.Data.Written
import Criteria.Proofs.Validation.Schemas

/-!
# Schemas that can be checked

The check of a schema ends with a report unless a problem cannot be worded or a default
operator cannot be looked for (`answers_selfCheck`). What may change cannot be looked for
among keys, save a set.
-/

namespace Criteria

/-- The default operator can be looked for among keys, and it can be named. -/
structure Field.DefaultNamed (f : Field) : Prop where
  lookedFor : f.defaultOperator.isConstant = true ∨ ∃ xs, f.defaultOperator = .set xs
  named : ¬ f.defaultOperator.Oversized

namespace Schema

variable {s : Schema} {f : Field} {fs : List Field} {p : SchemaProblem}

def AllReported (problems : List (Except Fault SchemaProblem)) : Prop :=
  ∀ problem ∈ problems, Answers (problem >>= SchemaProblem.toProblem)

theorem allReported_append : AllReported (xs ++ ys) ↔ AllReported xs ∧ AllReported ys :=
  List.forall_mem_append

theorem answers_toProblem : Answers p.toProblem ↔ Answers p.message :=
  answers_bind_pure

theorem allReported_singleton : AllReported [.ok p] ↔ Answers p.message :=
  List.forall_mem_singleton.trans answers_toProblem

theorem allReported_unknownDefault {key : String} {d : Data} :
    AllReported [.ok (.unknownDefault key d)] ↔ ¬ d.Oversized :=
  allReported_singleton.trans <|
    answers_bind_pure.trans d.answers_toText

theorem allReported_defaultProblems : AllReported (defaultProblems f) ↔ f.DefaultNamed := by
  have hnone : AllReported [] := by simp [AllReported]
  unfold defaultProblems
  split
  next h => exact iff_of_true hnone ⟨.inl (h ▸ rfl), by simp [h]⟩
  next key h =>
    have hnamed : f.DefaultNamed := ⟨.inl (h ▸ rfl), by simp [h]⟩
    split
    · exact iff_of_true hnone hnamed
    · exact iff_of_true (allReported_unknownDefault.mpr (h ▸ hnamed.named)) hnamed
  next xs h =>
    rw [allReported_unknownDefault, ← h]
    exact ⟨fun hnamed => ⟨.inr ⟨xs, h⟩, hnamed⟩, fun hnamed => hnamed.named⟩
  next hset =>
    split
    next hconstant =>
      rw [allReported_unknownDefault]
      exact ⟨fun hnamed => ⟨.inl hconstant, hnamed⟩, fun hnamed => hnamed.named⟩
    next hconstant =>
      refine iff_of_false (fun h => not_answers_error (h _ (.head _))) ?_
      rintro ⟨h | ⟨xs, h⟩, -⟩
      · exact hconstant h
      · exact hset xs h

theorem allReported_operatorProblems :
    AllReported (operatorProblems f) ↔ (f.operators ≠ [] → f.DefaultNamed) := by
  unfold operatorProblems
  split
  next h =>
    have hempty : f.operators = [] := List.isEmpty_iff.mp h
    exact iff_of_true (allReported_singleton.mpr answers_ok) fun hne => absurd hempty hne
  next h =>
    have hne : f.operators ≠ [] := mt List.isEmpty_iff.mpr h
    have hrepeated : AllReported ((repeats [] (f.operators.map (·.key))).map fun key =>
        .ok (.duplicateOperator f.key key)) := by
      intro problem hp
      obtain ⟨key, -, rfl⟩ := List.mem_map.mp hp
      exact answers_ok
    rw [allReported_append, and_iff_right hrepeated, allReported_defaultProblems,
      forall_prop_of_true hne]

theorem allReported_fieldProblems : AllReported (fieldProblems seen fs) ↔
    ∀ f ∈ fs, f.operators ≠ [] → f.DefaultNamed := by
  induction fs generalizing seen with
  | nil => exact iff_of_true nofun nofun
  | cons f fs ih =>
    have hrepeated :
        AllReported (if seen.contains f.key then [.ok (.duplicateField f.key)] else []) := by
      split
      · exact allReported_singleton.mpr answers_ok
      · exact nofun
    rw [fieldProblems, allReported_append, allReported_append, and_iff_right hrepeated, ih,
      allReported_operatorProblems, List.forall_mem_cons]

theorem allReported_limitProblems : AllReported s.limitProblems ↔
    ∀ limit, s.maxExpressions = some limit → limit < 1 → ¬ (Data.int limit).Oversized := by
  unfold limitProblems
  cases s.maxExpressions with
  | none => exact iff_of_true nofun nofun
  | some limit =>
    by_cases h : limit < 1
    · simp only [Option.some.injEq, forall_eq', h, if_true, forall_const, allReported_singleton,
        Data.not_oversized_int, ← answers_wholeText]
      exact answers_bind_pure
    · simp [h, AllReported]

/-- The check of a schema ends with a report unless a problem cannot be worded or a default
operator cannot be looked for. -/
theorem answers_selfCheck : Answers s.selfCheck ↔ (s.fields ≠ [] →
    (∀ limit, s.maxExpressions = some limit → limit < 1 → ¬ (Data.int limit).Oversized) ∧
      ∀ f ∈ s.fields, f.operators ≠ [] → f.DefaultNamed) := by
  have hproblems : Answers s.selfCheck ↔ AllReported s.problems :=
    answers_bind_pure.trans answers_mapM
  rw [hproblems, problems]
  split
  next h =>
    have hempty : s.fields = [] := List.isEmpty_iff.mp h
    exact iff_of_true (allReported_singleton.mpr answers_ok) fun hne => absurd hempty hne
  next h =>
    have hne : s.fields ≠ [] := mt List.isEmpty_iff.mpr h
    rw [allReported_append, allReported_limitProblems, allReported_fieldProblems,
      forall_prop_of_true hne]

end Schema

end Criteria
