import Criteria.Proofs.Validation.Findings

/-!
# The rules for one expression

An expression is checked against its field, its operator and then its value. The first rule that
it breaks is reported alone, and only where it breaks none the hooks are asked: the operator's, and
the field's if the operator's finds no error (`Schema.Verdict`). The rules for a value depend on
whether one is required and on the number and the order of the values that the operator takes
(`Field.Misfit`). A broken rule is always reported, unless its wording would quote a number with
more digits than are ever written.
-/

namespace Criteria

inductive Data.Absent : Data → Prop
  | null : Absent null
  | blank (h : ∀ c ∈ t.toList, Text.isBlank c = true) : Absent (text t)
  | list : Absent (list [])
  | tuple : Absent (tuple [])
  | set : Absent (set [])

/-- Two ends of a range that are given, have a common order and stand the wrong way round. -/
structure Data.EndsInverted (low high : Data) : Prop where
  lowGiven : low ≠ null
  highGiven : high ≠ null
  order : low.greater? high = some true

/-- As many values as are asked for: at least one, or an exact number. -/
def MultiValue.Takes (form : MultiValue) (n : Nat) : Prop :=
  if form.count.toInt = -1 then 1 ≤ n else (n : Int) = form.count.toInt

def OperatorInfo.TakesRange (op : OperatorInfo) : Prop :=
  op.key = "between" ∨ ∃ form, op.multiValue = some form ∧ form.count.toInt = 2 ∧
    form.labels = [.text "from", .text "to"]

inductive MultiValue.Misshapen (op : OperatorInfo) (form : MultiValue) (raw : Data) :
    ValueProblem → Prop
  | notList (hs : raw.sequence? = none) : Misshapen op form raw .notList
  | noValues (hs : raw.sequence? = some []) (hc : form.count.toInt = -1) :
      Misshapen op form raw .noValues
  | wrongCount {items : List Data} (hs : raw.sequence? = some items) (hc : form.count.toInt ≠ -1)
      (hn : ¬ form.Takes items.length) :
      Misshapen op form raw (.wrongCount form.count items.length)
  | inverted (hs : raw.sequence? = some [low, high]) (hn : form.Takes 2) (hr : op.TakesRange)
      (hi : Data.EndsInverted low high) : Misshapen op form raw (.inverted low high)

/-- A value has to be given. The operator has the first say. -/
def Field.Requires (f : Field) (op : Operator) : Prop :=
  op.valueRequired = some true ∨ op.valueRequired = none ∧ f.valueRequired = true

/-- What is wrong with a value of a field. A list may be left out altogether if no value is
required; one that is given must be in shape. -/
inductive Field.Misfit (f : Field) (op : Operator) (raw : Data) : ValueProblem → Prop
  | missing (hm : op.multiValue = none) (hr : f.Requires op) (ha : raw.Absent) :
      Misfit f op raw .missing
  | misshapen (hm : op.multiValue = some form) (hd : f.Requires op ∨ ¬ raw.Absent)
      (h : form.Misshapen op.toOperatorInfo raw problem) : Misfit f op raw problem

/-- The findings of one hook and then of another, which is asked only if the first finds no
error. -/
def Report.followedBy (first second : Report) : Report where
  errors := if first.errors = [] then second.errors else first.errors
  warnings := first.warnings ++ if first.errors = [] then second.warnings else []

abbrev ValueCheck := Value → CheckContext → Report

namespace Schema

def heard (s : Schema) (f : Field) (op : Operator) (e : Expression) (index : Option Int)
    (context : Filter) : Option ValueCheck → Report
  | none => {}
  | some check => (check e.value (s.checkContext f op context)).ascribed e.field.key index

/-- What the check of an expression comes to. -/
inductive Verdict (s : Schema) (e : Expression) (index : Option Int) (context : Filter) :
    Except Fault Report → Prop
  | unknownField (hf : ∀ f ∈ s.fields, f.key ≠ e.field.key) :
      Verdict s e index context (.ok (.ofError {
        kind := .field, message := s!"Field \"{e.field.key}\" not found in schema"
        index, field := e.field.key }))
  | unknownOperator (hf : s.field? e.field.key = some f)
      (ho : ∀ op ∈ f.operators, op.key ≠ e.operator.key) :
      Verdict s e index context (.ok (.ofError {
        kind := .operator
        message := s!"Operator \"{e.operator.key}\" is not valid for field \"{e.field.key}\""
        index, field := e.field.key }))
  | value (hf : s.field? e.field.key = some f) (ho : f.operator? e.operator.key = some op)
      (hp : f.Misfit op e.value.raw problem)
      (hm : problem.message e.field.key op.key = .ok message) :
      Verdict s e index context (.ok (.ofError {
        kind := .value, message, index, field := e.field.key }))
  | unworded (hf : s.field? e.field.key = some f) (ho : f.operator? e.operator.key = some op)
      (hp : f.Misfit op e.value.raw problem) (hd : ∃ d ∈ problem.quoted, d.Oversized) :
      Verdict s e index context (.error .digitLimit)
  | hooks (hf : s.field? e.field.key = some f) (ho : f.operator? e.operator.key = some op)
      (hv : ∀ problem, ¬ f.Misfit op e.value.raw problem) :
      Verdict s e index context (.ok
        ((s.heard f op e index context op.check).followedBy
          (s.heard f op e index context f.check)))

end Schema

def Field.withChecks (onField : Field → Option ValueCheck)
    (onOperator : Field → Operator → Option ValueCheck) (f : Field) : Field :=
  { f with
    check := onField f
    operators := f.operators.map fun op => { op with check := onOperator f op } }

def Schema.withChecks (s : Schema) (onField : Field → Option ValueCheck)
    (onOperator : Field → Operator → Option ValueCheck) : Schema :=
  { s with fields := s.fields.map (Field.withChecks onField onOperator) }

section
variable {s : Schema} {e : Expression} {index : Option Int} {context : Filter} {f : Field}
  {op : Operator} {info : OperatorInfo} {form : MultiValue} {raw low high d : Data}
  {items : List Data} {problem : ValueProblem} {out : Except Fault Report}
  {onField : Field → Option ValueCheck} {onOperator : Field → Operator → Option ValueCheck}

-- ---------------------------------------------------------------------------
-- Values
-- ---------------------------------------------------------------------------

theorem Data.isEmptyValue_iff : d.isEmptyValue = true ↔ d.Absent := by
  constructor
  · intro h
    cases d with
    | null => exact .null
    | text t => exact .blank (List.all_eq_true.mp h)
    | list xs =>
      obtain rfl : xs = [] := List.isEmpty_iff.mp h
      exact .list
    | tuple xs =>
      obtain rfl : xs = [] := List.isEmpty_iff.mp h
      exact .tuple
    | set xs =>
      obtain rfl : xs = [] := List.isEmpty_iff.mp h
      exact .set
    | _ => cases h
  · intro h
    cases h with
    | blank h => exact List.all_eq_true.mpr h
    | _ => rfl

theorem Data.isInverted_iff : low.isInverted high = true ↔ Data.EndsInverted low high := by
  have hnull (d : Data) : d.isNull = false ↔ d ≠ .null := by cases d <;> simp [isNull]
  have horder : (low.greater? high).getD false = true ↔ low.greater? high = some true := by
    cases low.greater? high <;> simp
  simp only [isInverted, Bool.and_eq_true, Bool.not_eq_true', hnull, horder]
  exact ⟨fun ⟨⟨hl, hh⟩, ho⟩ => ⟨hl, hh, ho⟩, fun ⟨hl, hh, ho⟩ => ⟨⟨hl, hh⟩, ho⟩⟩

theorem Data.alike_text_iff {t : String} : d.alike (.text t) = true ↔ d = .text t := by
  cases d <;> simp [alike, alikeScalar, number?]

theorem MultiValue.hasRangeLabels_iff :
    form.hasRangeLabels = true ↔ form.labels = [.text "from", .text "to"] := by
  unfold hasRangeLabels
  match form.labels with
  | [] | [_] => simp [Data.alikeAll]
  | [_, _] => simp [Data.alikeAll, Data.alike_text_iff]
  | _ :: _ :: _ :: _ => simp [Data.alikeAll]

theorem OperatorInfo.isRange_iff : info.isRange = true ↔ info.TakesRange := by
  simp only [isRange, Bool.or_eq_true, beq_iff_eq, Option.any_eq_true, Bool.and_eq_true,
    MultiValue.hasRangeLabels_iff]
  rfl

theorem Field.requiresValue_iff : f.requiresValue op = true ↔ f.Requires op := by
  unfold requiresValue Requires
  cases op.valueRequired <;> simp

theorem rangeProblem?_eq_some_iff : rangeProblem? info items = some problem ↔
    ∃ low high, items = [low, high] ∧ info.TakesRange ∧ Data.EndsInverted low high ∧
      problem = .inverted low high := by
  match items with
  | [] | [_] | _ :: _ :: _ :: _ => simp [rangeProblem?]
  | [low, high] =>
    simp only [rangeProblem?, Bool.and_eq_true, OperatorInfo.isRange_iff, Data.isInverted_iff,
      Option.ite_none_right_eq_some, Option.some.injEq, List.cons.injEq, and_true]
    constructor
    · rintro ⟨⟨hr, hi⟩, rfl⟩
      exact ⟨low, high, ⟨rfl, rfl⟩, hr, hi, rfl⟩
    · rintro ⟨low, high, ⟨rfl, rfl⟩, hr, hi, rfl⟩
      exact ⟨⟨hr, hi⟩, rfl⟩

theorem formProblem?_eq_some_iff :
    formProblem? info form raw = some problem ↔ form.Misshapen info raw problem := by
  constructor
  · intro h
    unfold formProblem? at h
    split at h
    next hs =>
      cases h
      exact .notList hs
    next items hs =>
      -- Both kinds of number leave the order of the two ends to be checked.
      have hrange (hn : form.Takes items.length) (h : rangeProblem? info items = some problem) :
          form.Misshapen info raw problem := by
        obtain ⟨low, high, rfl, hr, hi, rfl⟩ := rangeProblem?_eq_some_iff.mp h
        exact .inverted hs hn hr hi
      split at h
      next hc =>
        split at h
        next hempty =>
          obtain rfl : items = [] := List.isEmpty_iff.mp hempty
          cases h
          exact .noValues hs hc
        next hne =>
          refine hrange ?_ h
          rw [MultiValue.Takes, if_pos hc]
          exact List.length_pos_iff.mpr (mt List.isEmpty_iff.mpr hne)
      next hc =>
        have htakes : form.Takes items.length ↔ (items.length : Int) = form.count.toInt := by
          rw [MultiValue.Takes, if_neg hc]
        split at h
        next hn =>
          cases h
          exact .wrongCount hs hc (mt htakes.mp hn)
        next hn => exact hrange (htakes.mpr (Decidable.not_not.mp hn)) h
  · intro h
    cases h with
    | notList hs => simp [formProblem?, hs]
    | noValues hs hc => simp [formProblem?, hs, hc]
    | wrongCount hs hc hn =>
      rw [MultiValue.Takes, if_neg hc] at hn
      simp [formProblem?, hs, hc, hn]
    | inverted hs hn hr hi =>
      have hrange := rangeProblem?_eq_some_iff.mpr ⟨_, _, rfl, hr, hi, rfl⟩
      by_cases hc : form.count.toInt = -1
      · simp [formProblem?, hs, hc, hrange]
      · rw [MultiValue.Takes, if_neg hc] at hn
        simp [formProblem?, hs, hrange, ← hn]

theorem valueProblem?_eq_some_iff :
    valueProblem? f op raw = some problem ↔ f.Misfit op raw problem := by
  have hdue : (f.requiresValue op || !raw.isEmptyValue) = true ↔ f.Requires op ∨ ¬ raw.Absent := by
    rw [Bool.or_eq_true, Bool.not_eq_true', ← Bool.not_eq_true, Field.requiresValue_iff,
      Data.isEmptyValue_iff]
  have hmissing : (f.requiresValue op && raw.isEmptyValue) = true ↔ f.Requires op ∧ raw.Absent := by
    rw [Bool.and_eq_true, Field.requiresValue_iff, Data.isEmptyValue_iff]
  dsimp only [valueProblem?]
  cases hm : op.multiValue with
  | none =>
    dsimp only
    rw [Option.ite_none_right_eq_some, hmissing, Option.some.injEq]
    constructor
    · rintro ⟨⟨hr, ha⟩, rfl⟩
      exact .missing hm hr ha
    · rintro (⟨-, hr, ha⟩ | ⟨hm', -, -⟩)
      · exact ⟨⟨hr, ha⟩, rfl⟩
      · cases hm.symm.trans hm'
  | some form =>
    dsimp only
    rw [Option.ite_none_right_eq_some, hdue, formProblem?_eq_some_iff]
    constructor
    · rintro ⟨hd, h⟩
      exact .misshapen hm hd h
    · rintro (⟨hm', -, -⟩ | ⟨hm', hd, h⟩)
      · cases hm.symm.trans hm'
      · cases hm.symm.trans hm'
        exact ⟨hd, h⟩

theorem valueProblem?_eq_none_iff :
    valueProblem? f op raw = none ↔ ∀ problem, ¬ f.Misfit op raw problem := by
  simp only [← valueProblem?_eq_some_iff, Option.eq_none_iff_forall_ne_some, ne_eq]

-- ---------------------------------------------------------------------------
-- Hooks
-- ---------------------------------------------------------------------------

namespace Report

@[simp] theorem followedBy_empty (r : Report) : r.followedBy {} = r := by
  obtain ⟨errors, warnings⟩ := r
  cases errors <;> simp [followedBy]

@[simp] theorem empty_followedBy (r : Report) : Report.followedBy {} r = r := by
  simp [followedBy]

theorem untilError_nil : untilError [] = {} := rfl

theorem untilError_cons (r : Report) (rest : List Report) :
    untilError (r :: rest) = r.followedBy (untilError rest) := by
  obtain ⟨errors, warnings⟩ := r
  cases errors with
  | nil => rfl
  | cons => simp [untilError, isValid, followedBy]

end Report

theorem Field.operator?_eq_none_iff :
    f.operator? key = none ↔ ∀ op ∈ f.operators, op.key ≠ key := by
  simp [Field.operator?]

namespace Schema

theorem hookReport_eq : s.hookReport f op e index context =
    (s.heard f op e index context op.check).followedBy (s.heard f op e index context f.check) := by
  cases ho : op.check <;> cases hf : f.check <;>
    simp [hookReport, heard, ho, hf, Report.untilError_cons, Report.untilError_nil]

-- ---------------------------------------------------------------------------
-- Verdicts
-- ---------------------------------------------------------------------------

theorem field?_eq_none_iff : s.field? key = none ↔ ∀ f ∈ s.fields, f.key ≠ key := by
  simp [field?]

theorem verdict_validateExpression :
    s.Verdict e index context (s.validateExpression e index context) := by
  dsimp only [validateExpression]
  split
  next hf => exact .unknownField (field?_eq_none_iff.mp hf)
  next f hf =>
    split
    next ho => exact .unknownOperator hf (Field.operator?_eq_none_iff.mp ho)
    next op ho =>
      split
      next problem hp =>
        have hmisfit := valueProblem?_eq_some_iff.mp hp
        cases hm : problem.message e.field.key op.key with
        | ok message => exact .value hf ho hmisfit hm
        | error fault =>
          obtain ⟨rfl, d, hd, hu⟩ := ValueProblem.message_error hm
          exact .unworded hf ho hmisfit ⟨d, hd, Data.unwritable_iff.mp hu⟩
      next hv =>
        rw [hookReport_eq]
        exact .hooks hf ho (valueProblem?_eq_none_iff.mp hv)

theorem Verdict.validateExpression (h : s.Verdict e index context out) :
    s.validateExpression e index context = out := by
  dsimp only [Schema.validateExpression]
  cases h with
  | unknownField hf => simp only [field?_eq_none_iff.mpr hf]
  | unknownOperator hf ho => simp only [hf, Field.operator?_eq_none_iff.mpr ho]
  | value hf ho hp hm =>
    simp only [hf, ho, valueProblem?_eq_some_iff.mpr hp]
    exact bind_ok.mpr ⟨_, hm, rfl⟩
  | @unworded f op problem hf ho hp hd =>
    simp only [hf, ho, valueProblem?_eq_some_iff.mpr hp]
    obtain hm | ⟨fault, hm⟩ := answers_or_error (problem.message e.field.key op.key)
    · obtain ⟨d, hd, ho⟩ := hd
      exact absurd ho (answers_message.mp hm d hd)
    · obtain ⟨rfl, -⟩ := ValueProblem.message_error hm
      exact bind_error_first hm
  | hooks hf ho hv => simp only [hf, ho, valueProblem?_eq_none_iff.mpr hv, hookReport_eq]

-- ---------------------------------------------------------------------------
-- Where the hooks are not asked
-- ---------------------------------------------------------------------------

theorem field?_withChecks : (s.withChecks onField onOperator).field? key =
    (s.field? key).map (Field.withChecks onField onOperator) :=
  List.find?_map

theorem operator?_withChecks : (f.withChecks onField onOperator).operator? key =
    (f.operator? key).map fun op => { op with check := onOperator f op } :=
  List.find?_map

theorem misfit_withChecks {check : Option ValueCheck} :
    (f.withChecks onField onOperator).Misfit { op with check } raw problem ↔
      f.Misfit op raw problem := by
  constructor
  · rintro (⟨hm, hr, ha⟩ | ⟨hm, hd, h⟩)
    · exact .missing hm hr ha
    · exact .misshapen hm hd h
  · rintro (⟨hm, hr, ha⟩ | ⟨hm, hd, h⟩)
    · exact .missing hm hr ha
    · exact .misshapen hm hd h

theorem validateExpression_withChecks (h : ¬ s.Admits e.condition) :
    (s.withChecks onField onOperator).validateExpression e index context =
      s.validateExpression e index context := by
  have hfield {key f} (hf : s.field? key = some f) :
      (s.withChecks onField onOperator).field? key = some (f.withChecks onField onOperator) := by
    rw [field?_withChecks, hf, Option.map_some]
  have hoperator {f : Field} {key op} (ho : f.operator? key = some op) :
      (f.withChecks onField onOperator).operator? key =
        some { op with check := onOperator f op } := by
    rw [operator?_withChecks, ho, Option.map_some]
  have hverdict : s.Verdict e index context (s.validateExpression e index context) :=
    verdict_validateExpression
  refine Verdict.validateExpression ?_
  generalize s.validateExpression e index context = out at hverdict ⊢
  cases hverdict with
  | unknownField hf => exact .unknownField (List.forall_mem_map.mpr hf)
  | unknownOperator hf ho => exact .unknownOperator (hfield hf) (List.forall_mem_map.mpr ho)
  | value hf ho hp hm =>
    exact .value (hfield hf) (hoperator ho) (misfit_withChecks.mpr hp) hm
  | unworded hf ho hp hd =>
    exact .unworded (hfield hf) (hoperator ho) (misfit_withChecks.mpr hp) hd
  | hooks hf ho hv => exact absurd ⟨_, _, hf, ho, valueProblem?_eq_none_iff.mpr hv⟩ h

/-- The check of an expression comes to what its rules say and to nothing else. Hooks have a say
only where no rule is broken, and there is a report unless a broken rule cannot be worded. -/
theorem validateExpression_verdict (s : Schema) (e : Expression) (index : Option Int)
    (context : Filter) :
    (∀ out, s.validateExpression e index context = out ↔ s.Verdict e index context out) ∧
    (¬ s.Admits e.condition → ∀ onField onOperator,
      (s.withChecks onField onOperator).validateExpression e index context =
        s.validateExpression e index context) ∧
    (Answers (s.validateExpression e index context) ↔ ¬ s.CannotReport e) :=
  ⟨fun _ => ⟨fun h => h ▸ verdict_validateExpression, Verdict.validateExpression⟩,
    fun h _ _ => validateExpression_withChecks h, answers_validateExpression⟩

/-- A wrong number of values is not reported if the number that is asked for is too long to be
written. -/
theorem validateExpression_stops_at_long_count :
    let count : Int := (10 ^ Numeral.digitLimit : Nat)
    let op : Operator := { key := "in", label := "in", multiValue := some { count := .number count } }
    let tags : Field := { key := "tags", label := "Tags", operators := [op] }
    let s : Schema := { fields := [tags] }
    let e : Expression := ⟨⟨tags.ref, op.ref, ⟨.list [.text "red"], "red", "red"⟩⟩, none⟩
    tags.Misfit op e.value.raw (.wrongCount (.number count) 1) ∧
      s.validateExpression e none [e] = .error .digitLimit := by
  intro count op tags s e
  have hmany : 1 < count := Numeral.one_lt_pow_digitLimit
  have hlong : (Data.int count).Unwritable := Data.unwritable_pow
  -- The number itself is never computed.
  clear_value count
  have hc : (Count.number count).toInt ≠ -1 := Int.ne_of_gt (Int.lt_trans (by decide) hmany)
  have hwrong : ¬ MultiValue.Takes { count := .number count } 1 := by
    rw [MultiValue.Takes, if_neg hc]
    exact Int.ne_of_lt hmany
  have hmisfit : tags.Misfit op e.value.raw (.wrongCount (.number count) 1) :=
    .misshapen rfl (.inl (.inr ⟨rfl, rfl⟩))
      (@MultiValue.Misshapen.wrongCount _ _ _ [.text "red"] rfl hc hwrong)
  have hverdict : s.Verdict e none [e] (.error .digitLimit) :=
    .unworded rfl rfl hmisfit ⟨_, .head _, Data.unwritable_iff.mp hlong⟩
  exact ⟨hmisfit, hverdict.validateExpression⟩

end Schema

end

end Criteria
