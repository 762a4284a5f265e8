import Criteria.Proofs.Validation.Lists

/-!
# Where the findings of a filter come from

A filter passes the check if and only if it is not too long, each expression passes on its
own, the connectors stand where they should, no single-use field is used twice and the
schema's hook does not object. The problems of one that fails are accounted for one by one
(`Accounts`): a single-use field that is used again has one problem, at its second use, and
so has each place where a connector is missing or left over.
-/

namespace Criteria

namespace Filter

/-- Nothing joins the expression at a place to the next one, or the last is still joined. -/
def Misjoined (es : Filter) (i : Nat) : Prop :=
  ∃ e, es[i]? = some e ∧ if i + 1 = es.length then e.connector ≠ none else e.connector = none

/-- The field is used at a place, and once before it. -/
def IsSecondUse (es : Filter) (key : String) (i : Nat) : Prop :=
  (∃ e, es[i]? = some e ∧ e.field.key = key) ∧ uses (es.take i) key = 1

end Filter

/-- One problem of a certain form where the condition holds, and none where it does not. -/
structure OneWhere (condition : Prop) (form : Problem → Prop) (problems : List Problem) : Prop where
  one : condition → ∃ p, problems = [p] ∧ form p
  none : ¬ condition → problems = []

namespace OneWhere

variable {condition : Prop} {form : Problem → Prop} {p : Problem}

theorem found (hc : condition) (hp : form p) : OneWhere condition form [p] :=
  ⟨fun _ => ⟨p, rfl, hp⟩, fun h => absurd hc h⟩

theorem absent (hc : ¬ condition) : OneWhere condition form [] :=
  ⟨fun h => absurd h hc, fun _ => rfl⟩

end OneWhere

namespace Schema

open Criteria.Filter (Linked Misjoined IsSecondUse)

def ownReport (s : Schema) (es : Filter) (i : Nat) (e : Expression) : Report :=
  match s.validateExpression e (some i) es with
  | .ok r => r
  | .error _ => {}

/-- The problems of a filter, each told by what it comes from. -/
structure Accounts (s : Schema) (es : Filter) (problems : List Problem) : Prop where
  parts : ∃ limit, s.limitErrors es = .ok limit ∧ problems = limit ++
    (es.zipIdx.flatMap fun p =>
      (s.ownReport es p.2 p.1).errors ++ connectorErrors p.2 p.1 (p.2 + 1 == es.length)) ++
    s.fields.flatMap (singleUseErrors es) ++ (s.wholeReport es).errors
  own : ∀ (i : Nat) e, es[i]? = some e →
    s.validateExpression e (some i) es = .ok (s.ownReport es i e)
  connectors : ∀ (i : Nat) e, es[i]? = some e →
    OneWhere (es.Misjoined i)
      (fun p => p.kind = .expression ∧ p.index = some (i : Int) ∧ p.field = some e.field.key)
      (connectorErrors i e (i + 1 == es.length))
  single : ∀ field ∈ s.fields,
    OneWhere (field.allowMultiple = false ∧ 2 ≤ es.uses field.key)
      (fun p => p.kind = .field ∧ p.field = some field.key ∧
        ∃ i : Nat, p.index = some (i : Int) ∧ es.IsSecondUse field.key i)
      (singleUseErrors es field)

variable {s : Schema} {e : Expression} {es rest : Filter} {field : Field} {i : Nat}

-- ---------------------------------------------------------------------------
-- Which checks end with a report
-- ---------------------------------------------------------------------------

theorem answers_message {p : ValueProblem} :
    Answers (p.message fieldKey operator) ↔ ∀ d ∈ p.quoted, ¬ d.Oversized := by
  cases p with
  | missing | notList | noValues => exact ⟨fun _ => nofun, fun _ => answers_ok⟩
  | wrongCount expected actual =>
    refine answers_bind_pure.trans ?_
    cases expected with
    | flag b => exact ⟨fun _ => nofun, fun _ => answers_ok⟩
    | number n =>
      rw [ValueProblem.quoted, List.forall_mem_singleton]
      exact answers_wholeText.trans Data.not_oversized_int.symm
  | inverted low high =>
    rw [ValueProblem.quoted, List.forall_mem_cons, List.forall_mem_singleton,
      ← Data.answers_shown, ← Data.answers_shown]
    exact answers_bind_and fun _ => answers_bind_pure

theorem answers_validateExpression :
    Answers (s.validateExpression e index context) ↔ ¬ s.CannotReport e := by
  constructor
  · rintro ⟨r, hr⟩ ⟨field, op, problem, hf, ho, hv, d, hd, hu⟩
    have hworded : Answers (problem.message e.field.key op.key) := by
      simp only [validateExpression, hf, ho, hv] at hr
      obtain ⟨message, hm, -⟩ := bind_ok.mp hr
      exact ⟨message, hm⟩
    exact answers_message.mp hworded d hd (Data.unwritable_iff.mp hu)
  · intro h
    rcases answers_or_error (s.validateExpression e index context) with ha | ⟨f, hf⟩
    · exact ha
    · exact absurd (validateExpression_error hf).2 h

theorem validateExpression_error_iff :
    s.validateExpression e index context = .error f ↔ f = .digitLimit ∧ s.CannotReport e :=
  error_iff_of_answers (fun _ h => (validateExpression_error h).1) answers_validateExpression

theorem answers_validateFrom :
    Answers (s.validateFrom es seen i rest) ↔ ∀ e ∈ rest, ¬ s.CannotReport e := by
  induction rest generalizing seen i with
  | nil => simp [validateFrom]
  | cons e rest ih =>
    have hat : Answers (s.validateAt es seen i e rest.isEmpty) ↔ ¬ s.CannotReport e :=
      answers_bind_pure.trans answers_validateExpression
    rw [List.forall_mem_cons, ← hat]
    exact answers_bind_and fun _ => answers_bind_pure.trans ih

theorem answers_limitErrors : Answers (s.limitErrors es) ↔
    ∀ limit, s.maxExpressions = some limit → limit < (es.length : Int) →
      ¬ (Data.int limit).Oversized := by
  unfold limitErrors
  cases s.maxExpressions with
  | none => simp
  | some limit =>
    by_cases hlt : limit < (es.length : Int)
    · simp only [Option.some.injEq, forall_eq', hlt, forall_const,
        Data.not_oversized_int, ← answers_wholeText]
      exact answers_bind_pure
    · simp [hlt]

theorem answers_validate : Answers (s.validate es) ↔
    (∀ limit, s.maxExpressions = some limit → limit < (es.length : Int) →
      ¬ (Data.int limit).Oversized) ∧ ∀ e ∈ es, ¬ s.CannotReport e := by
  rw [validate_eq, ← answers_limitErrors]
  exact answers_bind_and fun _ =>
    answers_bind_pure.trans answers_validateFrom

theorem validate_error_of_first (hl : s.maxExpressions = none) (h : s.CannotReport e) :
    s.validate (e :: es) = .error .digitLimit := by
  have hlimit : s.limitErrors (e :: es) = .ok [] := by simp only [limitErrors, hl]
  have hown : s.validateExpression e (some 0) (e :: es) = .error .digitLimit :=
    validateExpression_error_iff.mpr ⟨rfl, h⟩
  have hat : s.validateAt (e :: es) [] 0 e es.isEmpty = .error .digitLimit :=
    bind_error_first hown
  rw [validate_eq]
  exact bind_error_later hlimit (bind_error_first (bind_error_first hat))

/-- One value is too few where more are asked for, and there is no report if their number is too
long to be written. -/
theorem cannotReport_of_long_count {count : Int} {form : MultiValue} {x : Data}
    (hf : s.field? e.field.key = some field) (ho : field.operator? e.operator.key = some op)
    (hm : op.multiValue = some form) (hcount : form.count = .number count) (hmany : 1 < count)
    (hlong : (Data.int count).Unwritable) (hraw : e.value.raw = .list [x]) :
    s.CannotReport e := by
  have hany : count ≠ -1 := by omega
  have hone : (1 : Int) ≠ count := by omega
  have hv : valueProblem? field op e.value.raw = some (.wrongCount (.number count) 1) := by
    simp [valueProblem?, hm, hraw, formProblem?, Data.isEmptyValue, Data.sequence?, hcount,
      Count.toInt, hany, hone]
  exact ⟨field, op, _, hf, ho, hv, _, .head _, hlong⟩

-- ---------------------------------------------------------------------------
-- Connectors
-- ---------------------------------------------------------------------------

theorem connectorErrors_oneWhere (he : es[i]? = some e) :
    OneWhere (es.Misjoined i)
      (fun p => p.kind = .expression ∧ p.index = some (i : Int) ∧ p.field = some e.field.key)
      (connectorErrors i e (i + 1 == es.length)) := by
  have hiff : es.Misjoined i ↔
      if i + 1 = es.length then e.connector ≠ none else e.connector = none := by
    simp only [Misjoined, he, Option.some.injEq, exists_eq_left']
  rw [hiff]
  by_cases hlast : i + 1 = es.length
  · rw [if_pos hlast, beq_iff_eq.mpr hlast]
    cases hc : e.connector with
    | none =>
      simp only [connectorErrors, hc]
      exact .absent fun h => h rfl
    | some c =>
      simp only [connectorErrors, hc]
      exact .found nofun ⟨rfl, rfl, rfl⟩
  · rw [if_neg hlast, beq_eq_false_iff_ne.mpr hlast]
    cases hc : e.connector with
    | none =>
      simp only [connectorErrors, hc]
      exact .found trivial ⟨rfl, rfl, rfl⟩
    | some c =>
      simp only [connectorErrors, hc]
      exact .absent nofun

theorem misjoined_zero :
    Misjoined (e :: es) 0 ↔ if es = [] then e.connector ≠ none else e.connector = none := by
  simp [Misjoined]

theorem misjoined_succ : Misjoined (e :: es) (i + 1) ↔ es.Misjoined i := by
  simp [Misjoined]

theorem linkProblem?_eq_none_iff_misjoined :
    es.linkProblem? = none ↔ ∀ i, ¬ es.Misjoined i := by
  rw [Filter.linkProblem?_eq_none_iff]
  induction es with
  | nil => simp [Filter.linked_nil, Misjoined]
  | cons e es ih =>
    rw [← Nat.and_forall_add_one]
    simp only [misjoined_succ, misjoined_zero, ← ih]
    by_cases hnil : es = []
    · subst hnil
      simp [Filter.linked_singleton, Filter.linked_nil]
    · rw [Filter.linked_cons hnil, if_neg hnil]

-- ---------------------------------------------------------------------------
-- Single-use fields
-- ---------------------------------------------------------------------------

theorem uses_cons : Filter.uses (e :: es) key =
    Filter.uses es key + if e.field.key = key then 1 else 0 := by
  simp [Filter.uses, List.countP_cons]

def usageFrom (k : Nat) (es : Filter) (key : String) : List Nat :=
  ((es.zipIdx k).filter fun p => p.1.field.key == key).map (·.2)

theorem usageFrom_cons : usageFrom k (e :: es) key =
    if e.field.key = key then k :: usageFrom (k + 1) es key else usageFrom (k + 1) es key := by
  by_cases h : e.field.key = key
  · simp [usageFrom, h]
  · simp [usageFrom, h]

theorem usageFrom_eq_cons (h : usageFrom k es key = i :: more) :
    ∃ before e after, es = before ++ e :: after ∧ i = k + before.length ∧ e.field.key = key ∧
      Filter.uses before key = 0 ∧ more = usageFrom (i + 1) after key := by
  induction es generalizing k with
  | nil => cases h
  | cons e es ih =>
    rw [usageFrom_cons] at h
    split at h
    next hkey =>
      obtain ⟨rfl, rfl⟩ := List.cons.inj h
      exact ⟨[], e, es, rfl, rfl, hkey, rfl, rfl⟩
    next hkey =>
      obtain ⟨before, e', after, rfl, hi, hkey', hnone, hmore⟩ := ih h
      refine ⟨e :: before, e', after, rfl, ?_, hkey', ?_, hmore⟩
      · rw [hi, List.length_cons, Nat.add_assoc, Nat.add_comm 1]
      · rw [uses_cons, hnone, if_neg hkey]

theorem isSecondUse_of_usage (h : usage es key = i :: j :: more) : es.IsSecondUse key j := by
  obtain ⟨before, e, after, rfl, hi, hkey, hnone, hmore⟩ := usageFrom_eq_cons (k := 0) h
  obtain ⟨between, e', later, rfl, hj, hkey', hnone', -⟩ := usageFrom_eq_cons hmore.symm
  have hplace : j = (before ++ e :: between).length := by
    simp only [List.length_append, List.length_cons]
    omega
  have hsplit : before ++ e :: (between ++ e' :: later) =
      (before ++ e :: between) ++ e' :: later := by simp
  rw [hsplit, hplace]
  refine ⟨⟨e', by simp, hkey'⟩, ?_⟩
  rw [List.take_left']
  · have happend : Filter.uses (before ++ e :: between) key =
        Filter.uses before key + Filter.uses (e :: between) key := List.countP_append
    rw [happend, uses_cons, hnone, hnone', if_pos hkey]
  · rfl

theorem singleUseErrors_oneWhere (es : Filter) (field : Field) :
    OneWhere (field.allowMultiple = false ∧ 2 ≤ es.uses field.key)
      (fun p => p.kind = .field ∧ p.field = some field.key ∧
        ∃ i : Nat, p.index = some (i : Int) ∧ es.IsSecondUse field.key i)
      (singleUseErrors es field) := by
  rw [← length_usage]
  unfold singleUseErrors
  split
  next first second more hmultiple husage =>
    exact .found ⟨hmultiple, by simp [husage]⟩
      ⟨rfl, rfl, second, rfl, isSecondUse_of_usage husage⟩
  next hother =>
    refine .absent fun ⟨hmultiple, hlength⟩ => ?_
    match husage : usage es field.key with
    | [] =>
      rw [husage] at hlength
      exact absurd hlength (Nat.not_succ_le_zero 1)
    | [_] =>
      rw [husage] at hlength
      exact absurd hlength (Nat.not_succ_le_self 1)
    | first :: second :: more => exact hother first second more hmultiple husage

-- ---------------------------------------------------------------------------
-- The filter as a whole
-- ---------------------------------------------------------------------------

theorem ownReport_of_ok (h : s.validateExpression e (some i) es = .ok r) :
    s.ownReport es i e = r := by
  simp only [ownReport, h]

theorem errors_validateFrom (h : s.validateFrom es seen i rest = .ok r) :
    (∀ p ∈ rest.zipIdx i,
      s.validateExpression p.1 (some p.2) es = .ok (s.ownReport es p.2 p.1)) ∧
    r.errors = (rest.zipIdx i).flatMap fun p => (s.ownReport es p.2 p.1).errors ++
      connectorErrors p.2 p.1 (p.2 + 1 == i + rest.length) := by
  induction rest generalizing seen i r with
  | nil =>
    cases h
    exact ⟨nofun, rfl⟩
  | cons e rest ih =>
    obtain ⟨own, later, hown, hlater, rfl⟩ := validateFrom_cons_ok_iff.mp h
    obtain ⟨hall, herrors⟩ := ih hlater
    have hself := ownReport_of_ok hown
    have hlast : (i + 1 == i + (e :: rest).length) = rest.isEmpty := by
      cases rest <;> simp
    have hlength : i + (e :: rest).length = i + 1 + rest.length := by
      rw [List.length_cons, Nat.add_assoc, Nat.add_comm 1]
    rw [List.zipIdx_cons, List.forall_mem_cons, List.flatMap_cons, hlast, hself]
    refine ⟨⟨hown, hall⟩, ?_⟩
    rw [hlength, ← herrors]
    rfl

theorem accounts_of_validate (h : s.validate es = .ok r) : s.Accounts es r.errors := by
  obtain ⟨limit, each, hlimit, heach, rfl⟩ := validate_ok_iff.mp h
  obtain ⟨hall, herrors⟩ := errors_validateFrom heach
  rw [Nat.zero_add] at herrors
  exact {
    parts := ⟨limit, hlimit, herrors ▸ rfl⟩
    own := fun i e he => hall (e, i) (List.mem_zipIdx_iff_getElem?.mpr he)
    connectors := fun _ _ he => connectorErrors_oneWhere he
    single := fun field _ => singleUseErrors_oneWhere es field }

/-- A filter is valid exactly when it keeps every rule, and its report accounts for every rule
that it breaks. -/
theorem validate_sound_complete (s : Schema) (es : Filter) :
    ((∃ r, s.validate es = .ok r ∧ r.isValid = true) ↔
      (∀ limit, s.maxExpressions = some limit → (es.length : Int) ≤ limit) ∧
      (∀ (i : Nat) e, es[i]? = some e →
        ∃ r, s.validateExpression e (some i) es = .ok r ∧ r.isValid = true) ∧
      es.linkProblem? = none ∧
      (∀ field ∈ s.fields, field.allowMultiple = false → ¬ 2 ≤ es.uses field.key) ∧
      ∀ check, s.check = some check → (check es).errors = []) ∧
    (∀ r, s.validate es = .ok r → s.Accounts es r.errors) ∧
    (Answers (s.validate es) ↔
      (∀ limit, s.maxExpressions = some limit → limit < (es.length : Int) →
        ¬ (Data.int limit).Oversized) ∧ ∀ e ∈ es, ¬ s.CannotReport e) ∧
    (es.linkProblem? = none ↔ ∀ i, ¬ es.Misjoined i) := by
  refine ⟨?_, fun r => accounts_of_validate, answers_validate,
    linkProblem?_eq_none_iff_misjoined⟩
  have hplaces : (∀ p ∈ es.zipIdx, s.Passes es p.2 p.1) ↔
      ∀ (i : Nat) e, es[i]? = some e →
        ∃ r, s.validateExpression e (some i) es = .ok r ∧ r.isValid = true :=
    ⟨fun h i e he => h (e, i) (List.mem_zipIdx_iff_getElem?.mpr he),
      fun h p hp => h p.2 p.1 (List.mem_zipIdx_iff_getElem?.mp hp)⟩
  have hsingle : (∀ field ∈ s.fields, field.allowMultiple = true ∨ es.uses field.key ≤ 1) ↔
      ∀ field ∈ s.fields, field.allowMultiple = false → ¬ 2 ≤ es.uses field.key := by
    refine forall₂_congr fun field _ => ?_
    cases field.allowMultiple with
    | true => simp
    | false =>
      simp only [Bool.false_eq_true, false_or, forall_const]
      omega
  rw [validate_isValid_iff, hplaces, hsingle, Filter.linkProblem?_eq_none_iff, and_assoc]
  simp only [Report.isValid, List.isEmpty_iff]

/-- A second use of a single-use field has no problem where the check ends without a report, because
the number of values that another expression should have is too long to be written. -/
theorem validate_stops_unaccounted :
    let count : Int := (10 ^ Numeral.digitLimit : Nat)
    let op : Operator :=
      { key := "in", label := "in", multiValue := some { count := .number count } }
    let is : Operator := { key := "is", label := "is" }
    let tags : Field := { key := "tags", label := "Tags", operators := [op] }
    let status : Field :=
      { key := "status", label := "Status", allowMultiple := false, operators := [is] }
    let s : Schema := { fields := [tags, status] }
    let es : Filter :=
      [⟨⟨tags.ref, op.ref, ⟨.list [.text "red"], "red", "red"⟩⟩, some "AND"⟩,
        ⟨⟨status.ref, is.ref, ⟨.text "open", "open", "open"⟩⟩, some "AND"⟩,
        ⟨⟨status.ref, is.ref, ⟨.text "closed", "closed", "closed"⟩⟩, none⟩]
    (∃ field ∈ s.fields, field.allowMultiple = false ∧ 2 ≤ es.uses field.key) ∧
      s.validate es = .error .digitLimit := by
  intro count op is tags status s es
  have hmany : 1 < count := Numeral.one_lt_pow_digitLimit
  have hlong : (Data.int count).Unwritable := Data.unwritable_pow
  -- The number itself is never computed.
  clear_value count
  refine ⟨⟨status, .tail _ (.head _), rfl, Nat.le_refl 2⟩, validate_error_of_first rfl ?_⟩
  exact cannotReport_of_long_count rfl rfl rfl rfl hmany hlong rfl

end Schema

end Criteria
