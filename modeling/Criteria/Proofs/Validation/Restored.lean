import Criteria.Proofs.Validation.Rules
import Criteria.Proofs.Wire.Origins

/-!
# What the check finds in restored filters

Restoring looks fields and operators up and links what it has restored, so the check of a
restored filter finds nothing wrong with these. What it may find is a value that does not fit
its operator, a single-use field that is used again, or too many expressions
(`Schema.Substantive`). A list is never missing where a text or a list was stored.
-/

namespace Criteria

inductive Problem.Structural (p : Problem) : Prop
  | unknownField (hk : p.kind = .field) {key : String}
      (hm : p.message = s!"Field \"{key}\" not found in schema")
  | unknownOperator (hk : p.kind = .operator)
  | connector (hk : p.kind = .expression)

namespace Schema

inductive Substantive (s : Schema) (es : Filter) : Problem → Prop
  | limit {limit : Int} (h : s.maxExpressions = some limit) (hlt : limit < (es.length : Int))
      (hm : wholeText limit = .ok shown) :
      Substantive s es {
        kind := .schema
        message := s!"Maximum of {shown} expressions allowed, but {es.length} provided" }
  | value {e : Expression} {i : Nat} (he : es[i]? = some e) (hr : s.Resolves e.condition f op)
      (hp : valueProblem? f op e.value.raw = some problem)
      (hm : problem.message e.field.key op.key = .ok message) :
      Substantive s es
        { kind := .value, message, index := some (i : Int), field := some e.field.key }
  | singleUse {f : Field} {i : Nat} (hf : f ∈ s.fields) (hsingle : f.allowMultiple = false)
      (hu : 2 ≤ es.uses f.key) (hi : es.IsSecondUse f.key i) :
      Substantive s es {
        kind := .field
        message := s!"Field \"{f.label}\" can only be used once, but appears {es.uses f.key} times"
        index := some (i : Int), field := some f.key }

structure NumbersWritten (s : Schema) : Prop where
  limit : ∀ limit, s.maxExpressions = some limit → ¬ (Data.int limit).Oversized
  counts : ∀ f ∈ s.fields, ∀ op ∈ f.operators, ∀ form n, op.multiValue = some form →
    form.count = .number n → ¬ (Data.int n).Oversized

/-- The check of a filter ends with a report if the schema's own numbers can be written, and it
finds substantive problems only. -/
structure FindsSubstance (s : Schema) (es : Filter) : Prop where
  answers : s.NumbersWritten → Answers (s.validate es)
  problems : ∀ report, s.validate es = .ok report → ∀ p ∈ report.errors,
    s.Substantive es p ∧ ¬ p.Structural

def NeverAsksList (s : Schema) (es : Filter) (i : Nat) : Prop :=
  ∀ report, s.validate es = .ok report → ∀ p ∈ report.errors, p.index = some (i : Int) →
    ∀ field operator, ValueProblem.notList.message field operator ≠ .ok p.message

end Schema

section
variable {s : Schema} {es : Filter} {e : Expression} {f : Field} {op : Operator} {v : Value}
  {stored raw : Data} {p : Problem} {problem : ValueProblem} {report : Report}

-- ---------------------------------------------------------------------------
-- Wordings
-- ---------------------------------------------------------------------------

theorem take_append_of_take {start cs : List Char} (h : cs.take n = start)
    (hlen : start.length = n) (rest : List Char) : (cs ++ rest).take n = start := by
  have hle : n ≤ cs.length := by
    rw [← hlen, ← h]
    exact List.length_take_le' n cs
  rw [List.take_append_of_le_length hle, h]

namespace ValueProblem

def opening : ValueProblem → String
  | missing => "Value i"
  | notList => "Value f"
  | noValues | wrongCount _ _ => "Operato"
  | inverted _ _ => "Range f"

theorem take_message (h : problem.message field operator = .ok text) :
    text.toList.take 7 = problem.opening.toList := by
  cases problem with
  | missing | notList | noValues =>
    rw [← Except.ok.inj h]
    simp only [String.toList_append, List.append_assoc]
    exact take_append_of_take rfl rfl _
  | wrongCount expected actual =>
    obtain ⟨count, -, h⟩ := bind_ok.mp h
    rw [← pure_ok.mp h]
    simp only [String.toList_append, List.append_assoc]
    have hopening : "Operator \"".toList.take 7 = "Operato".toList := rfl
    exact take_append_of_take hopening rfl _
  | inverted low high =>
    obtain ⟨lowText, -, h⟩ := bind_ok.mp h
    obtain ⟨highText, -, h⟩ := bind_ok.mp h
    rw [← pure_ok.mp h]
    simp only [String.toList_append, List.append_assoc]
    have hopening : "Range for field \"".toList.take 7 = "Range f".toList := rfl
    exact take_append_of_take hopening rfl _

theorem eq_notList (h : problem.message field operator = .ok text)
    (hn : notList.message field' operator' = .ok text) : problem = notList := by
  have hopening : problem.opening.toList = notList.opening.toList :=
    (take_message h).symm.trans (take_message hn)
  cases problem with
  | notList => rfl
  | missing | noValues => exact absurd hopening (by decide)
  | wrongCount => exact absurd hopening (by simp [opening])
  | inverted => exact absurd hopening (by simp [opening])

end ValueProblem

namespace Schema

theorem Substantive.not_structural (h : s.Substantive es p) : ¬ p.Structural := by
  rintro (⟨hk, hm⟩ | hk | hk)
  · cases h with
    | limit | value => cases hk
    | singleUse =>
      have hend := congrArg (fun m => m.toList.getLast?) hm
      simp only [String.toList_append, List.getLast?_append] at hend
      cases hend
  · cases h <;> cases hk
  · cases h <;> cases hk

theorem Substantive.notList {i : Nat} (h : s.Substantive es p) (hi : p.index = some (i : Int))
    (hn : ValueProblem.notList.message field operator = .ok p.message) :
    ∃ e f op, es[i]? = some e ∧ s.Resolves e.condition f op ∧
      valueProblem? f op e.value.raw = some .notList := by
  cases h with
  | limit => cases hi
  | @value f op problem message e k he hr hp hm =>
    obtain rfl : k = i := Int.ofNat_inj.mp (Option.some.inj hi)
    obtain rfl := ValueProblem.eq_notList hm hn
    exact ⟨e, f, op, he, hr, hp⟩
  | singleUse =>
    have hopening := ValueProblem.take_message hn
    simp only [String.toList_append, List.append_assoc] at hopening
    cases hopening

-- ---------------------------------------------------------------------------
-- The check of a filter that stands on its own
-- ---------------------------------------------------------------------------

theorem substantive_of_limitErrors (h : s.limitErrors es = .ok limit) (hp : p ∈ limit) :
    s.Substantive es p := by
  unfold limitErrors at h
  split at h
  next most hmost =>
    split at h
    next hlt =>
      obtain ⟨shown, hshown, h⟩ := bind_ok.mp h
      obtain rfl := pure_ok.mp h
      obtain rfl := List.mem_singleton.mp hp
      exact .limit hmost hlt hshown
    · cases h
      cases hp
  · cases h
    cases hp

theorem substantive_of_singleUseErrors (hf : f ∈ s.fields) (hp : p ∈ singleUseErrors es f) :
    s.Substantive es p := by
  unfold singleUseErrors at hp
  split at hp
  next first second more hsingle husage =>
    obtain rfl := List.mem_singleton.mp hp
    have hlength : (first :: second :: more).length = es.uses f.key := by
      rw [← husage, length_usage]
    rw [hlength]
    exact .singleUse hf hsingle (by simp [← hlength]) (isSecondUse_of_usage husage)
  · cases hp

theorem substantive_of_validateExpression {i : Nat} (hu : s.Unhooked) (he : es[i]? = some e)
    (hr : s.Resolves e.condition f op)
    (h : s.validateExpression e (some i) es = .ok report) (hp : p ∈ report.errors) :
    s.Substantive es p := by
  have hf : s.field? e.field.key = some f := hr.field
  have ho : f.operator? e.operator.key = some op := hr.operator
  simp only [validateExpression, hf, ho] at h
  split at h
  next problem hproblem =>
    obtain ⟨message, hmessage, h⟩ := bind_ok.mp h
    obtain rfl := pure_ok.mp h
    obtain rfl := List.mem_singleton.mp hp
    exact .value he hr hproblem hmessage
  · rw [hookReport_of_unhooked hu hf ho] at h
    cases h
    cases hp

theorem substantive_of_validate (hu : s.Unhooked) (hl : Filter.Linked es)
    (hr : ∀ e ∈ es, ∃ f op, s.Resolves e.condition f op) (h : s.validate es = .ok report)
    (hp : p ∈ report.errors) : s.Substantive es p := by
  have haccounts := accounts_of_validate h
  obtain ⟨limit, hlimit, hparts⟩ := haccounts.parts
  have hwhole : s.wholeReport es = {} := by simp [wholeReport, hu.schema]
  simp only [hparts, hwhole, List.mem_append, List.mem_flatMap, List.not_mem_nil, or_false] at hp
  rcases hp with (hp | ⟨⟨e, i⟩, he, hp⟩) | ⟨f, hf, hp⟩
  · exact substantive_of_limitErrors hlimit hp
  · have he := List.mem_zipIdx_iff_getElem?.mp he
    rcases hp with hp | hp
    · obtain ⟨f, op, hres⟩ := hr e (List.mem_of_getElem? he)
      exact substantive_of_validateExpression hu he hres (haccounts.own i e he) hp
    · have hjoined : ¬ es.Misjoined i :=
        linkProblem?_eq_none_iff_misjoined.mp (Filter.linkProblem?_eq_none_iff.mpr hl) i
      rw [(haccounts.connectors i e he).none hjoined] at hp
      cases hp
  · exact substantive_of_singleUseErrors hf hp

end Schema

-- ---------------------------------------------------------------------------
-- Problems of values
-- ---------------------------------------------------------------------------

inductive ValueProblem.Arises (op : Operator) (raw : Data) : ValueProblem → Prop
  | missing : Arises op raw .missing
  | notList (h : raw.sequence? = none) : Arises op raw .notList
  | noValues : Arises op raw .noValues
  | wrongCount {items : List Data} (hm : op.multiValue = some form)
      (h : raw.sequence? = some items) : Arises op raw (.wrongCount form.count items.length)
  | inverted (h : raw.sequence? = some [low, high]) : Arises op raw (.inverted low high)

theorem arises_of_valueProblem? (h : valueProblem? f op raw = some problem) :
    problem.Arises op raw := by
  cases valueProblem?_eq_some_iff.mp h with
  | missing => exact .missing
  | misshapen hm _ h =>
    cases h with
    | notList hs => exact .notList hs
    | noValues => exact .noValues
    | wrongCount hs => exact .wrongCount hm hs
    | inverted hs => exact .inverted hs

theorem not_oversized_of_sequence? (h : ¬ raw.Oversized) (hs : raw.sequence? = some items) :
    ∀ d ∈ items, ¬ d.Oversized := by
  cases raw with
  | list xs =>
    cases hs
    exact Data.not_oversized_list.mp h
  | tuple xs =>
    cases hs
    exact Data.not_oversized_tuple.mp h
  | _ => cases hs

theorem ValueProblem.Arises.quoted (h : problem.Arises op raw)
    (hcount : ∀ form n, op.multiValue = some form → form.count = .number n →
      ¬ (Data.int n).Oversized) (hraw : ¬ raw.Oversized) :
    ∀ d ∈ problem.quoted, ¬ d.Oversized := by
  cases h with
  | missing | notList | noValues => exact nofun
  | inverted hs => exact not_oversized_of_sequence? hraw hs
  | @wrongCount form items hm hs =>
    cases hc : form.count with
    | number n => exact List.forall_mem_singleton.mpr (hcount form n hm hc)
    | flag b => exact nofun

-- ---------------------------------------------------------------------------
-- Restored filters
-- ---------------------------------------------------------------------------

namespace Schema

theorem findsSubstance (hu : s.Unhooked) (hl : Filter.Linked es)
    (h : ∀ e ∈ es, ∃ f op, s.Resolves e.condition f op ∧ ¬ e.value.raw.Oversized) :
    s.FindsSubstance es := by
  constructor
  · intro hn
    refine answers_validate.mpr ⟨fun limit h _ => hn.limit limit h, ?_⟩
    rintro e he ⟨f, op, problem, hf, ho, hp, d, hd, hunwritable⟩
    obtain ⟨-, -, -, hraw⟩ := h e he
    have hcounts : ∀ form n, op.multiValue = some form → form.count = .number n →
        ¬ (Data.int n).Oversized :=
      hn.counts f (field?_mem hf) op (Field.operator?_mem ho)
    exact (arises_of_valueProblem? hp).quoted hcounts hraw d hd (Data.unwritable_iff.mp hunwritable)
  · intro report hreport p hp
    have hresolves : ∀ e ∈ es, ∃ f op, s.Resolves e.condition f op := by
      intro e he
      obtain ⟨f, op, hr, -⟩ := h e he
      exact ⟨f, op, hr⟩
    have hsubstantive := substantive_of_validate hu hl hresolves hreport hp
    exact ⟨hsubstantive, hsubstantive.not_structural⟩

theorem Origin.neverAsksList {i : Nat} (ho : s.Origin item e) (hi : Entry.stored? item = some stored)
    (hs : stored.Several) (ht : s.TakesSeveral e) (he : es[i]? = some e)
    (hfinds : s.FindsSubstance es) : s.NeverAsksList es i := by
  intro report hreport p hp hindex field operator hmessage
  obtain ⟨e', f, op, he', hr, hproblem⟩ :=
    (hfinds.problems report hreport p hp).1.notList hindex hmessage
  obtain rfl : e = e' := Option.some.inj (he.symm.trans he')
  obtain ⟨_, hi', hreads⟩ := ho
  obtain rfl := Option.some.inj (hi.symm.trans hi')
  obtain ⟨f', op', hr', -, -, hvalue⟩ := hreads.resolves
  obtain ⟨rfl, rfl⟩ := hr.unique hr'
  obtain ⟨f'', op'', hr'', hm⟩ := ht
  obtain ⟨rfl, rfl⟩ := hr.unique hr''
  obtain ⟨items, hitems⟩ := (Entry.gives_of_ownValue hvalue).several hm hs
  have hraw : e.value.raw = .list items := hitems
  rw [hraw] at hproblem
  cases arises_of_valueProblem? hproblem with
  | notList h => cases h

/-- Without hooks the check finds only substantive problems in what was restored, from data or
from a query string, and never asks for a list where a text or a list was stored for an operator
that takes several values. -/
theorem validate_restored (hu : s.Unhooked) (hs : s.restore = none)
    (hf : ∀ f ∈ s.fields, f.restore = none) :
    (∀ data options r, s.restoreFilter data options = .ok r →
      s.FindsSubstance r.expressions ∧
      (∃ kept, kept.Sublist data.entries ∧ List.Forall₂ s.Origin kept r.expressions) ∧
      ∀ (i : Nat) e item stored, r.expressions[i]? = some e → s.Origin item e →
        Entry.stored? item = some stored → stored.Several → s.TakesSeveral e →
          s.NeverAsksList r.expressions i) ∧
    ∀ query, s.FindsSubstance (s.restoreQuery query).expressions := by
  constructor
  · intro data options r h
    have hfinds : s.FindsSubstance r.expressions := by
      refine findsSubstance hu (restoreFilter_linked h) fun e he => ?_
      obtain ⟨item, -, stored, -, hreads⟩ := restoreFilter_origin hs hf h he
      obtain ⟨f, op, hr, -, -, hvalue⟩ := hreads.resolves
      exact ⟨f, op, hr, (Entry.gives_of_ownValue hvalue).not_oversized⟩
    refine ⟨hfinds, restoreFilter_origins hs hf h, ?_⟩
    intro i e item stored he ho hi hseveral ht
    exact ho.neverAsksList hi hseveral ht he hfinds
  · intro query
    refine findsSubstance hu (restoreQuery_linked s query) fun e he => ?_
    obtain ⟨f, op, text, hr, hraw⟩ := (restoreQuery_reads he).resolves
    have hraw : e.value.raw = .text text := hraw
    exact ⟨f, op, hr, hraw ▸ Data.not_oversized_text⟩

/-- A list without items, a single-use field that comes again, and both from a query string. -/
theorem validate_restored_tags :
    let inOp : Operator :=
      { key := "in", label := "in", multiValue := some { count := .number (-1) } }
    let s : Schema :=
      { fields := [{ key := "tags", label := "Tags", operators := [inOp], allowMultiple := false }] }
    let entry (value : Data) : Data :=
      .record [(.text "field", .text "tags"), (.text "operator", .text "in"), (.text "value", value)]
    let data : Data := .list [entry (.text "[]"), entry (.list []), entry .null]
    ∃ r report, s.restoreFilter data = .ok r ∧ s.validate r.expressions = .ok report ∧
      report.errors.map (·.kind) = [.value, .value, .value, .field] ∧
      (∀ p ∈ report.errors, ¬ p.Structural) ∧ s.NeverAsksList r.expressions 0 ∧
      ∃ report, s.validate (s.restoreQuery "tags=red&tags=blue").expressions = .ok report ∧
        ∀ p ∈ report.errors, ¬ p.Structural := by
  intro inOp s entry data
  let tags : Field :=
    { key := "tags", label := "Tags", operators := [inOp], allowMultiple := false }
  let brackets : Value := ⟨.list [], "", "[]"⟩
  have hu : s.Unhooked := ⟨rfl, by simp [s], by simp [s, inOp]⟩
  have hf : ∀ f ∈ s.fields, f.restore = none := by simp [s]
  have hr : ∃ r, s.restoreFilter data = .ok r ∧
      r.expressions[0]? = some ⟨⟨tags.ref, inOp.ref, brackets⟩, some "AND"⟩ ∧
      ∃ report, s.validate r.expressions = .ok report ∧
        report.errors.map (·.kind) = [.value, .value, .value, .field] :=
    ⟨_, rfl, rfl, _, rfl, rfl⟩
  have hreads : s.Reads (.text "[]") ⟨tags.ref, inOp.ref, brackets⟩ := .intro ⟨rfl, rfl⟩ rfl
  obtain ⟨r, hr, hfirst, report, hreport, hkinds⟩ := hr
  obtain ⟨hfilters, hqueries⟩ := validate_restored hu rfl hf
  obtain ⟨hfinds, -, hlists⟩ := hfilters data {} r hr
  have hnever := hlists 0 _ (entry (.text "[]")) _ hfirst ⟨_, rfl, hreads⟩ rfl .text
    ⟨tags, inOp, ⟨rfl, rfl⟩, by simp [inOp]⟩
  have hquery : Answers (s.validate (s.restoreQuery "tags=red&tags=blue").expressions) := by
    refine (hqueries _).answers ⟨nofun, ?_⟩
    intro f hf op hop form n hform hn
    obtain rfl := List.mem_singleton.mp hf
    obtain rfl := List.mem_singleton.mp hop
    cases hform
    cases hn
    exact Data.not_oversized_int.mpr (by decide)
  obtain ⟨report', hreport'⟩ := hquery
  exact ⟨r, report, hr, hreport, hkinds, fun p hp => (hfinds.problems report hreport p hp).2, hnever,
    report', hreport', fun p hp => ((hqueries _).problems report' hreport' p hp).2⟩

end Schema

end

end Criteria
