import Criteria.Proofs.Machine.Moves
import Criteria.Proofs.Validation.Findings

/-!
# Edits of committed expressions

`Makes` lists what an accepted edit makes of the expressions, one rule for each way to edit:
another condition at a place, another connector at a place that has one, or one expression
less. A refused edit says why and leaves the expressions alone (`apply_ok`), unless the reason
cannot be worded (`apply_error_iff`). No edit breaks the links of the expressions around it, so a
well-formed state can be edited in any step.
-/

namespace Criteria

open Criteria.Filter (Linked Awaits)

def Problem.Unwritable (p : Problem) : Prop := ∃ n, p.index = some n ∧ (Data.int n).Unwritable

/-- The check of an expression finds what cannot be worded, in its report or in the log. -/
def Schema.CannotReject (s : Schema) (e : Expression) (i : Nat) (context : Filter) : Prop :=
  s.CannotReport e ∨ ∃ report, s.validateExpression e (some i) context = .ok report ∧
    ∃ p ∈ report.errors, p.Unwritable

namespace Problem

theorem shown_fault (p : Problem) : OnlyDigitLimit p.shown :=
  .bind (Data.shown_fault _) fun _ => .bind (Data.shown_fault _) fun _ => .pure

theorem answers_shown {p : Problem} : Answers p.shown ↔ ¬ p.Unwritable := by
  obtain ⟨kind, message, index, field⟩ := p
  have hfield : Answers (Data.ofOption (field.map .text)).shown := by
    cases field with
    | none => exact answers_ok
    | some text => exact answers_ok
  have hshown : Answers (Problem.shown ⟨kind, message, index, field⟩) ↔
      Answers (Data.ofOption (index.map .int)).shown :=
    answers_bind_of_forall fun _ => answers_bind_pure.mpr hfield
  rw [hshown, Data.answers_shown]
  cases index with
  | none => exact ⟨fun _ => by rintro ⟨n, ⟨⟩, -⟩, fun _ => Data.not_oversized_null⟩
  | some n =>
    refine not_congr ⟨fun h => ⟨n, rfl, Data.unwritable_iff.mpr h⟩, ?_⟩
    rintro ⟨m, ⟨⟩, h⟩
    exact Data.unwritable_iff.mp h

end Problem

namespace Edit

/-- What an accepted edit makes of the expressions. -/
inductive Makes (trailing : Option Connector) : Edit → Filter → Nat → Filter → Prop
  | condition {es : Filter} (he : es[i]? = some e) (hc : edit.condition? e.condition = some c) :
      Makes trailing edit es i (es.set i { e with condition := c })
  | connector {es : Filter} (he : es[i]? = some e) (hn : e.connector ≠ none)
      (hd : Connector.ofData? d = some c) :
      Makes trailing (.connector d) es i (es.set i (e.withConnector (some c)))
  | delete {es : Filter} (he : es[i]? = some e) :
      Makes trailing .delete es i (Filter.withLast trailing (es.eraseIdx i))

/-- An edit is refused, but the reason quotes what cannot be written. -/
inductive CannotReport : Edit → Filter → Int → Option Schema → Prop
  | outside (ho : index < 0 ∨ (es.length : Int) ≤ index) (hi : (Data.int index).Unwritable) :
      CannotReport edit es index schema
  | connector {es : Filter} {i : Nat} (he : es[i]? = some e) (hd : d.Unwritable) :
      CannotReport (.connector d) es i schema
  | condition {es : Filter} {i : Nat} (he : es[i]? = some e)
      (hc : edit.condition? e.condition = some c)
      (hs : s.CannotReject { e with condition := c } i (es.set i { e with condition := c })) :
      CannotReport edit es i (some s)

section
variable {edit : Edit} {es fs : Filter} {e : Expression} {index : Int} {i : Nat}
  {schema : Option Schema} {trailing : Option Connector} {r : EditResult}

-- ---------------------------------------------------------------------------
-- What the links become
-- ---------------------------------------------------------------------------

theorem Makes.awaits (h : edit.Makes trailing es i fs) (ha : Awaits es trailing) :
    Awaits fs fs.lastConnector? := by
  cases h with
  | condition he =>
    have hn := ha.joined _ (List.mem_of_getElem? he)
    exact ha.set hn
  | connector => exact ha.set (by simp)
  | delete => exact ha.eraseIdx

theorem Makes.linked (h : edit.Makes none es i fs) (hl : Linked es) : Linked fs := by
  cases h with
  | condition he => exact hl.congr (Filter.connectors_set he rfl)
  | connector he hn => exact hl.set he hn (by simp)
  | delete => exact hl.connected.eraseIdx.linked_withLast

-- ---------------------------------------------------------------------------
-- Answers
-- ---------------------------------------------------------------------------

theorem rejection_error_iff : rejection i problems = .error f ↔
    f = .digitLimit ∧ ∃ p ∈ problems, p.Unwritable := by
  refine error_iff_of_answers (.bind (.mapM Problem.shown_fault) fun _ => .pure) ?_
  rw [rejection, answers_bind_pure, answers_mapM]
  simp only [Problem.answers_shown, not_exists, not_and]

theorem replaceAt_ok (h : replaceAt es i updated schema = .ok r) :
    r = done (es.set i updated) ∨ ∃ problems, problems ≠ [] ∧ r = failed es problems := by
  cases schema with
  | none => exact .inl (Except.ok.inj h).symm
  | some schema =>
    obtain ⟨report, -, h⟩ := bind_ok.mp h
    split at h
    next => exact .inl (pure_ok.mp h).symm
    next hv =>
      obtain ⟨note, -, h⟩ := bind_ok.mp h
      refine .inr ⟨report.errors, ?_, (pure_ok.mp h).symm⟩
      simpa [Report.isValid] using hv

theorem replaceAt_error_iff : replaceAt es i updated schema = .error f ↔
    f = .digitLimit ∧ ∃ s, schema = some s ∧ s.CannotReject updated i (es.set i updated) := by
  cases schema with
  | none => exact ⟨nofun, nofun⟩
  | some s =>
    simp only [Option.some.injEq, exists_eq_left']
    constructor
    · intro h
      rcases bind_error.mp h with h | ⟨report, hr, h⟩
      · exact (Schema.validateExpression_error_iff.mp h).imp_right .inl
      · split at h
        · cases h
        · rcases bind_error.mp h with h | ⟨note, -, h⟩
          · exact (rejection_error_iff.mp h).imp_right fun hp => .inr ⟨report, hr, hp⟩
          · cases h
    · rintro ⟨rfl, hs | ⟨report, hr, p, hp, hu⟩⟩
      · exact bind_error_first (Schema.validateExpression_error_iff.mpr ⟨rfl, hs⟩)
      · have hv : ¬ report.isValid = true := by
          simpa [Report.isValid] using List.ne_nil_of_mem hp
        refine bind_error_later hr ?_
        rw [if_neg hv]
        exact bind_error_first (rejection_error_iff.mpr ⟨rfl, p, hp, hu⟩)

theorem connectAt_ok (h : connectAt es i e d = .ok r) :
    (∃ c, Connector.ofData? d = some c ∧ e.connector ≠ none ∧
      r = done (es.set i (e.withConnector (some c)))) ∨
      ∃ problems, problems ≠ [] ∧ r = failed es problems := by
  unfold connectAt at h
  split at h
  · obtain ⟨text, -, h⟩ := bind_ok.mp h
    exact .inr ⟨_, by simp, (pure_ok.mp h).symm⟩
  · exact .inr ⟨_, by simp, (Except.ok.inj h).symm⟩
  next hd hc => exact .inl ⟨_, hd, by simp [hc], (Except.ok.inj h).symm⟩

theorem connectAt_error_iff :
    connectAt es i e d = .error f ↔ f = .digitLimit ∧ d.Unwritable := by
  constructor
  · intro h
    unfold connectAt at h
    split at h
    · rcases bind_error.mp h with h | ⟨text, -, h⟩
      · exact Data.unwritable_of_error h
      · cases h
    · cases h
    · cases h
  · rintro ⟨rfl, hd⟩
    simp only [connectAt, Connector.ofData?_unwritable hd]
    exact bind_error_first hd

theorem outside_ok (h : outside es index = .ok r) :
    ∃ problems, problems ≠ [] ∧ r = failed es problems := by
  obtain ⟨shown, -, h⟩ := bind_ok.mp h
  exact ⟨_, List.cons_ne_nil _ _, (pure_ok.mp h).symm⟩

theorem outside_error_iff :
    outside es index = .error f ↔ f = .digitLimit ∧ (Data.int index).Unwritable := by
  constructor
  · intro h
    rcases bind_error.mp h with h | ⟨shown, -, h⟩
    · exact Data.unwritable_of_error h
    · cases h
  · rintro ⟨rfl, hi⟩
    exact bind_error_first hi

theorem apply_outside (h : index < 0 ∨ (es.length : Int) ≤ index) :
    edit.apply es index schema trailing = outside es index := by
  have hnone : (if index < 0 then none else es[index.toNat]?) = none := by
    split
    · rfl
    · exact List.getElem?_eq_none (by omega)
  simp only [apply, hnone]

section
variable (he : es[i]? = some e)
include he

theorem apply_connector : (connector d).apply es i schema trailing = connectAt es i e d := by
  simp only [apply, Int.natCast_nonneg, Int.not_lt.mpr, if_false, Int.toNat_natCast, he]

theorem apply_delete : delete.apply es i schema trailing =
    .ok (done (Filter.withLast trailing (es.eraseIdx i))) := by
  simp only [apply, Int.natCast_nonneg, Int.not_lt.mpr, if_false, Int.toNat_natCast, he]

theorem apply_condition (hc : edit.condition? e.condition = some c) :
    edit.apply es i schema trailing = replaceAt es i { e with condition := c } schema := by
  cases edit with
  | connector | delete => cases hc
  | value | operator | field =>
    cases hc
    simp only [apply, Int.natCast_nonneg, Int.not_lt.mpr, if_false, Int.toNat_natCast, he,
      condition?]

end

theorem apply_cases (edit : Edit) (es : Filter) (index : Int) (schema : Option Schema)
    (trailing : Option Connector) :
    ((index < 0 ∨ (es.length : Int) ≤ index) ∧
        edit.apply es index schema trailing = outside es index) ∨
      ∃ (i : Nat) (e : Expression), index = i ∧ es[i]? = some e ∧
        ((∃ d, edit = .connector d ∧
            edit.apply es index schema trailing = connectAt es i e d) ∨
          (edit = .delete ∧ edit.apply es index schema trailing =
            .ok (done (Filter.withLast trailing (es.eraseIdx i)))) ∨
          ∃ c, edit.condition? e.condition = some c ∧
            edit.apply es index schema trailing =
              replaceAt es i { e with condition := c } schema) := by
  by_cases ho : index < 0 ∨ (es.length : Int) ≤ index
  · exact .inl ⟨ho, apply_outside ho⟩
  · obtain ⟨i, rfl⟩ : ∃ i : Nat, index = i := ⟨index.toNat, by omega⟩
    have he : es[i]? = some es[i] := List.getElem?_eq_getElem (by omega)
    refine .inr ⟨i, es[i], rfl, he, ?_⟩
    cases edit with
    | connector d => exact .inl ⟨d, rfl, apply_connector he⟩
    | delete => exact .inr (.inl ⟨rfl, apply_delete he⟩)
    | value | operator | field => exact .inr (.inr ⟨_, rfl, apply_condition he rfl⟩)

/-- An edit that is answered is made, or is refused for reasons that it gives. -/
theorem apply_ok (h : edit.apply es index schema trailing = .ok r) :
    (∃ (i : Nat) (fs : Filter), index = i ∧ edit.Makes trailing es i fs ∧ r = done fs) ∨
      ∃ problems, problems ≠ [] ∧ r = failed es problems := by
  rcases apply_cases edit es index schema trailing with
    ⟨-, ha⟩ | ⟨i, e, rfl, he, ⟨d, rfl, ha⟩ | ⟨rfl, ha⟩ | ⟨c, hc, ha⟩⟩ <;> rw [ha] at h
  · exact .inr (outside_ok h)
  · rcases connectAt_ok h with ⟨c, hd, hn, rfl⟩ | hfailed
    · exact .inl ⟨i, _, rfl, .connector he hn hd, rfl⟩
    · exact .inr hfailed
  · exact .inl ⟨i, _, rfl, .delete he, (Except.ok.inj h).symm⟩
  · rcases replaceAt_ok h with rfl | hfailed
    · exact .inl ⟨i, _, rfl, .condition he hc, rfl⟩
    · exact .inr hfailed

/-- An edit is always answered, unless it is refused for a reason that cannot be worded. -/
theorem apply_error_iff : edit.apply es index schema trailing = .error f ↔
    f = .digitLimit ∧ edit.CannotReport es index schema := by
  constructor
  · intro h
    rcases apply_cases edit es index schema trailing with
      ⟨ho, ha⟩ | ⟨i, e, rfl, he, ⟨d, rfl, ha⟩ | ⟨rfl, ha⟩ | ⟨c, hc, ha⟩⟩ <;> rw [ha] at h
    · exact (outside_error_iff.mp h).imp_right (.outside ho)
    · exact (connectAt_error_iff.mp h).imp_right (.connector he)
    · cases h
    · obtain ⟨hf, s, rfl, hs⟩ := replaceAt_error_iff.mp h
      exact ⟨hf, .condition he hc hs⟩
  · rintro ⟨rfl, hcause⟩
    cases hcause with
    | outside ho hi => exact (apply_outside ho).trans (outside_error_iff.mpr ⟨rfl, hi⟩)
    | connector he hd => exact (apply_connector he).trans (connectAt_error_iff.mpr ⟨rfl, hd⟩)
    | condition he hc hs =>
      exact (apply_condition he hc).trans (replaceAt_error_iff.mpr ⟨rfl, _, rfl, hs⟩)

theorem cannotReport_of_long_range {s : Schema} {f : Field} {op : Operator} {form : MultiValue}
    {m n : Int}
    (he : es[i]? = some e) (hf : s.field? e.field.key = some f)
    (ho : f.operator? e.operator.key = some op) (hm : op.multiValue = some form)
    (hcount : form.count.toInt = 2) (hrange : op.isRange = true) (hlt : n < m)
    (hlong : (Data.int m).Unwritable) :
    CannotReport (.value ⟨.list [.int m, .int n], display, wire⟩) es i (some s) := by
  have hinverted : (Data.int m).isInverted (.int n) = true := by
    simp [Data.isInverted, Data.isNull, Data.greater?, Data.greaterScalar?, Data.number?,
      Number.greater, Number.compare?, Int.compare_eq_gt.mpr hlt]
  have hv : valueProblem? f op (.list [.int m, .int n]) = some (.inverted (.int m) (.int n)) := by
    simp [valueProblem?, hm, formProblem?, Data.isEmptyValue, Data.sequence?, hcount, rangeProblem?,
      hrange, hinverted]
  exact .condition he rfl (.inl ⟨f, op, _, hf, ho, hv, _, .head _, hlong⟩)

end

end Edit

namespace State

variable {s : State} {edit : Edit} {es : Filter} {index : Int} {schema : Option Schema}

-- ---------------------------------------------------------------------------
-- The committed expressions of a state
-- ---------------------------------------------------------------------------

theorem withExpressions_wellFormed
    (hidle : s.step.isBuilding = false → Linked es)
    (hbuilding : s.step.isBuilding = true → Awaits es es.lastConnector?) :
    (s.withExpressions es).WellFormed := by
  cases s with
  | idle | selectingConnector => exact hidle rfl
  | selectingField | selectingOperator | enteringValue => exact hbuilding rfl

theorem withExpressions_of_makes (hs : s.WellFormed)
    (h : edit.Makes s.pending? s.expressions i fs) : (s.withExpressions fs).WellFormed := by
  cases s with
  | idle | selectingConnector => exact h.linked hs
  | selectingField | selectingOperator | enteringValue => exact h.awaits hs

/-- The check of the new state never stands in the way of an edit. -/
theorem edit_of_apply_ok (hs : s.WellFormed)
    (ha : edit.apply s.expressions index schema s.pending? = .ok r) :
    s.edit edit index schema =
      (.ok r, if r.success then s.withExpressions r.expressions else s) := by
  rcases Edit.apply_ok ha with ⟨i, fs, -, hm, rfl⟩ | ⟨problems, -, rfl⟩
  · have hw := withExpressions_of_makes hs hm
    simp [State.edit, ha, Edit.done, enter_of_wellFormed hw]
  · simp [State.edit, ha, Edit.failed]

theorem edit_of_apply_error (ha : edit.apply s.expressions index schema s.pending? = .error f) :
    s.edit edit index schema = (.error (.fault f), s) := by
  simp only [State.edit, ha]

theorem edit_cases (hs : s.WellFormed) (edit : Edit) (index : Int) (schema : Option Schema) :
    (∃ r s', s.edit edit index schema = (.ok r, s') ∧ s'.WellFormed) ∨
      edit.CannotReport s.expressions index schema ∧
        s.edit edit index schema = (.error (.fault .digitLimit), s) := by
  cases ha : edit.apply s.expressions index schema s.pending? with
  | error f =>
    obtain ⟨rfl, hcause⟩ := Edit.apply_error_iff.mp ha
    exact .inr ⟨hcause, edit_of_apply_error ha⟩
  | ok r =>
    refine .inl ⟨r, _, edit_of_apply_ok hs ha, ?_⟩
    rcases Edit.apply_ok ha with ⟨i, fs, -, hm, rfl⟩ | ⟨problems, -, rfl⟩
    · exact withExpressions_of_makes hs hm
    · exact hs

-- ---------------------------------------------------------------------------
-- Loading
-- ---------------------------------------------------------------------------

theorem awaits_loaded (hl : Linked es) (c : Connector) :
    Awaits (es.withLast c) (es.withLast c).lastConnector? := by
  rcases Filter.eq_nil_or_append es with rfl | ⟨front, last, rfl⟩
  · exact Filter.awaits_nil
  · obtain ⟨hf, -⟩ := Filter.linked_concat.mp hl
    refine Filter.awaits_of_joined ?_
    simpa [or_imp, forall_and] using hf

theorem load_error (h : es.linkProblem? = some problem) :
    s.load es = (.error (.notLinked problem), s) := by
  simp only [load, h]

theorem load_ok (h : es.linkProblem? = none) : ∃ s', s.load es = (.ok (), s') ∧ s'.WellFormed := by
  have hl : Linked es := Filter.linkProblem?_eq_none_iff.mp h
  cases hb : s.step.isBuilding with
  | true =>
    have hw : (s.withExpressions (es.withLast s.loadConnector)).WellFormed :=
      withExpressions_wellFormed (by simp [hb]) fun _ => awaits_loaded hl _
    exact ⟨_, by simp [load, h, hb, enter_of_wellFormed hw], hw⟩
  | false =>
    have hw : (s.withExpressions es).WellFormed :=
      withExpressions_wellFormed (fun _ => hl) (by simp [hb])
    exact ⟨_, by simp [load, h, hb, enter_of_wellFormed hw], hw⟩

end State

end Criteria
