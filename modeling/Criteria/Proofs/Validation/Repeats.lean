import Mathlib.Data.Finset.Card
import Criteria.Proofs.Validation.Edited
import Criteria.Proofs.Validation.Rules

/-!
# Repeated expressions

The check of a filter notices each expression that says the same as an earlier one, at its place
and with the first of those that it repeats (`Filter.Noted`). It looks back only, so one more
expression at the end leaves the notices before it as they are. Whether the expressions break
rules makes no difference to the notices, and the notices make none to whether the filter passes.
-/

namespace Criteria

/-- Two expressions say the same: they agree in the field, the operator and the stored value. -/
structure Expression.SameAs (a b : Expression) : Prop where
  field : a.field.key = b.field.key
  operator : a.operator.key = b.operator.key
  value : a.value.wire = b.value.wire

namespace Filter

structure FirstSame (es : Filter) (e : Expression) (first : Nat) : Prop where
  same : ∃ x, es[first]? = some x ∧ x.SameAs e
  earliest : ∀ (j : Nat) x, es[j]? = some x → x.SameAs e → first ≤ j

def IsRepeat (es : Filter) (i : Nat) : Prop :=
  ∃ e, es[i]? = some e ∧ ∃ x ∈ es.take i, x.SameAs e

/-- The notice of a repeat names its place, its field and the first expression that it repeats. -/
def Announces (es : Filter) (i : Nat) (n : Notice) : Prop :=
  ∃ e first, es[i]? = some e ∧ first < i ∧ es.FirstSame e first ∧
    n = { message := s!"Expression {i + 1} duplicates expression {first + 1}"
          index := some i, field := some e.field.key }

/-- One notice for each repeat, in the order of their places. -/
structure Noted (es : Filter) (places : List Nat) (notices : List Notice) : Prop where
  increasing : places.Pairwise (· < ·)
  repeats : ∀ i, i ∈ places ↔ es.IsRepeat i
  announced : List.Forall₂ es.Announces places notices

variable {es : Filter} {e : Expression} {i first : Nat} {n : Notice}
  {places : List Nat} {notices : List Notice}

-- ---------------------------------------------------------------------------
-- One more expression
-- ---------------------------------------------------------------------------

theorem getElem?_concat (h : es[i]? = some e) (last : Expression) :
    (es ++ [last])[i]? = some e := by
  obtain ⟨hi, -⟩ := List.getElem?_eq_some_iff.mp h
  rw [List.getElem?_append_left hi, h]

theorem FirstSame.lt (h : es.FirstSame e first) : first < es.length := by
  obtain ⟨x, hx, -⟩ := h.same
  exact (List.getElem?_eq_some_iff.mp hx).1

theorem FirstSame.concat (h : es.FirstSame e first) (last : Expression) :
    (es ++ [last]).FirstSame e first where
  same := by
    obtain ⟨x, hx, hsame⟩ := h.same
    exact ⟨x, getElem?_concat hx last, hsame⟩
  earliest j x hx hsame := by
    by_cases hj : j < es.length
    · rw [List.getElem?_append_left hj] at hx
      exact h.earliest j x hx hsame
    · exact Nat.le_trans (Nat.le_of_lt h.lt) (Nat.not_lt.mp hj)

theorem Announces.concat (h : es.Announces i n) (last : Expression) :
    (es ++ [last]).Announces i n := by
  obtain ⟨e, first, he, hlt, hfirst, rfl⟩ := h
  exact ⟨e, first, getElem?_concat he last, hlt, hfirst.concat last, rfl⟩

theorem IsRepeat.lt (h : es.IsRepeat i) : i < es.length := by
  obtain ⟨e, he, -⟩ := h
  exact (List.getElem?_eq_some_iff.mp he).1

theorem isRepeat_concat : (es ++ [e]).IsRepeat i ↔
    es.IsRepeat i ∨ i = es.length ∧ ∃ x ∈ es, x.SameAs e := by
  rcases Nat.lt_trichotomy i es.length with hlt | rfl | hgt
  · simp only [IsRepeat, List.getElem?_append_left hlt,
      List.take_append_of_le_length (Nat.le_of_lt hlt), Nat.ne_of_lt hlt, false_and, or_false]
  · simp [IsRepeat]
  · constructor
    · intro h
      have hle := h.lt
      rw [List.length_append, List.length_singleton] at hle
      omega
    · rintro (h | ⟨rfl, -⟩)
      · exact absurd h.lt (Nat.lt_asymm hgt)
      · exact absurd hgt (Nat.lt_irrefl _)

theorem Noted.concat_new (h : es.Noted places notices) (hnew : ¬ ∃ x ∈ es, x.SameAs e) :
    (es ++ [e]).Noted places notices where
  increasing := h.increasing
  repeats i := by
    rw [isRepeat_concat, ← h.repeats]
    simp only [hnew, and_false, or_false]
  announced := h.announced.imp fun _ _ ha => ha.concat e

theorem Noted.concat_same (h : es.Noted places notices) (hsame : ∃ x ∈ es, x.SameAs e)
    (hn : (es ++ [e]).Announces es.length n) :
    (es ++ [e]).Noted (places ++ [es.length]) (notices ++ [n]) where
  increasing := by
    refine List.pairwise_append.mpr ⟨h.increasing, List.pairwise_singleton _ _, ?_⟩
    intro i hi j hj
    obtain rfl := List.mem_singleton.mp hj
    exact ((h.repeats i).mp hi).lt
  repeats i := by
    rw [isRepeat_concat, ← h.repeats, List.mem_append, List.mem_singleton]
    simp only [hsame, and_true]
  announced := List.rel_append (h.announced.imp fun _ _ ha => ha.concat e) (.cons hn .nil)

end Filter

namespace Schema

open Criteria.Filter (FirstSame IsRepeat Announces Noted)

variable {s : Schema} {es rest : Filter} {e x : Expression} {i first : Nat}
  {seen : List (String × String × String)} {r : Report}

-- ---------------------------------------------------------------------------
-- The notice at one place
-- ---------------------------------------------------------------------------

theorem signature_eq_iff : signature x = signature e ↔ x.SameAs e := by
  rw [signature, signature, Prod.mk.injEq, Prod.mk.injEq]
  exact ⟨fun ⟨hf, ho, hv⟩ => ⟨hf, ho, hv⟩, fun ⟨hf, ho, hv⟩ => ⟨hf, ho, hv⟩⟩

theorem signature_mem_iff : signature e ∈ es.map signature ↔ ∃ x ∈ es, x.SameAs e := by
  simp only [List.mem_map, signature_eq_iff]

theorem firstSame_of_findIdx? (h : (es.map signature).findIdx? (· == signature e) = some first) :
    es.FirstSame e first := by
  rw [List.findIdx?_map, List.findIdx?_eq_some_iff_getElem] at h
  obtain ⟨hlt, hsame, hearlier⟩ := h
  refine ⟨⟨es[first], List.getElem?_eq_getElem hlt, signature_eq_iff.mp (beq_iff_eq.mp hsame)⟩, ?_⟩
  intro j x hx hsame
  obtain ⟨hj, rfl⟩ := List.getElem?_eq_some_iff.mp hx
  exact Nat.not_lt.mp fun hlt => hearlier j hlt (beq_iff_eq.mpr (signature_eq_iff.mpr hsame))

theorem duplicateNotices_of_new (h : ¬ ∃ x ∈ es, x.SameAs e) :
    duplicateNotices (es.map signature) i e = [] := by
  have hnone : (es.map signature).findIdx? (· == signature e) = none := by
    rw [List.findIdx?_eq_none_iff]
    intro said hsaid
    rw [beq_eq_false_iff_ne]
    rintro rfl
    exact h (signature_mem_iff.mp hsaid)
  simp only [duplicateNotices, hnone]

theorem duplicateNotices_of_same (h : ∃ x ∈ es, x.SameAs e) :
    ∃ n, duplicateNotices (es.map signature) es.length e = [n] ∧
      (es ++ [e]).Announces es.length n := by
  unfold duplicateNotices
  split
  next first hfound =>
    have hfirst := firstSame_of_findIdx? hfound
    exact ⟨_, rfl, e, first, List.getElem?_concat_length, hfirst.lt, hfirst.concat e, rfl⟩
  next hnone =>
    have hnew := List.findIdx?_eq_none_iff.mp hnone _ (signature_mem_iff.mpr h)
    exact absurd hnew (by simp)

-- ---------------------------------------------------------------------------
-- The notices of a filter
-- ---------------------------------------------------------------------------

def noticesFrom (seen : List (String × String × String)) (i : Nat) : Filter → List Notice
  | [] => []
  | e :: rest => duplicateNotices seen i e ++ noticesFrom (seen ++ [signature e]) (i + 1) rest

theorem noticesFrom_concat : noticesFrom seen i (rest ++ [e]) =
    noticesFrom seen i rest ++
      duplicateNotices (seen ++ rest.map signature) (i + rest.length) e := by
  induction rest generalizing seen i with
  | nil => simp [noticesFrom]
  | cons x rest ih =>
    have hlength : i + (x :: rest).length = i + 1 + rest.length := by
      rw [List.length_cons, Nat.add_assoc, Nat.add_comm 1]
    rw [List.cons_append, noticesFrom, noticesFrom, ih, hlength, List.map_cons,
      List.append_assoc seen, List.singleton_append, List.append_assoc]

theorem notices_concat : noticesFrom [] 0 (es ++ [e]) =
    noticesFrom [] 0 es ++ duplicateNotices (es.map signature) es.length e := by
  rw [noticesFrom_concat, List.nil_append, Nat.zero_add]

theorem noted_notices (es : Filter) : ∃ places, es.Noted places (noticesFrom [] 0 es) := by
  -- The notices look back, so the filter grows at its end.
  induction es using List.reverseRecOn with
  | nil => exact ⟨[], .nil, by simp [IsRepeat], .nil⟩
  | append_singleton es e ih =>
    obtain ⟨places, h⟩ := ih
    rw [notices_concat]
    by_cases hsame : ∃ x ∈ es, x.SameAs e
    · obtain ⟨n, hn, ha⟩ := duplicateNotices_of_same hsame
      rw [hn]
      exact ⟨_, h.concat_same hsame ha⟩
    · rw [duplicateNotices_of_new hsame, List.append_nil]
      exact ⟨_, h.concat_new hsame⟩

theorem length_notices (es : Filter) :
    (noticesFrom [] 0 es).length + (es.map signature).toFinset.card = es.length := by
  induction es using List.reverseRecOn with
  | nil => rfl
  | append_singleton es e ih =>
    have hinsert : ((es ++ [e]).map signature).toFinset =
        insert (signature e) (es.map signature).toFinset := by
      ext
      simp
    have hmem : signature e ∈ (es.map signature).toFinset ↔ ∃ x ∈ es, x.SameAs e :=
      List.mem_toFinset.trans signature_mem_iff
    rw [notices_concat, hinsert, List.length_append, List.length_append, List.length_singleton]
    by_cases hsame : ∃ x ∈ es, x.SameAs e
    · obtain ⟨n, hn, -⟩ := duplicateNotices_of_same hsame
      rw [hn, Finset.card_insert_of_mem (hmem.mpr hsame), List.length_singleton,
        Nat.add_right_comm, ih]
    · rw [duplicateNotices_of_new hsame, Finset.card_insert_of_notMem (mt hmem.mp hsame),
        List.length_nil, Nat.add_zero, ← Nat.add_assoc, ih]

-- ---------------------------------------------------------------------------
-- The check of a filter
-- ---------------------------------------------------------------------------

theorem warnings_validateExpression (hs : s.Unhooked)
    (h : s.validateExpression e index context = .ok r) : r.warnings = [] := by
  have hverdict : s.Verdict e index context (.ok r) := h ▸ verdict_validateExpression
  cases hverdict with
  | unknownField | unknownOperator | value => rfl
  | hooks hf ho hv => rw [← hookReport_eq, hookReport_of_unhooked hs hf ho]

theorem warnings_validateFrom (hs : s.Unhooked) (h : s.validateFrom es seen i rest = .ok r) :
    r.warnings = noticesFrom seen i rest := by
  induction rest generalizing seen i r with
  | nil =>
    cases h
    rfl
  | cons e rest ih =>
    obtain ⟨own, later, hown, hlater, rfl⟩ := validateFrom_cons_ok_iff.mp h
    show (own.warnings ++ duplicateNotices seen i e) ++ later.warnings = _
    rw [warnings_validateExpression hs hown, List.nil_append, ih hlater, noticesFrom]

theorem warnings_validate (hs : s.Unhooked) (h : s.validate es = .ok r) :
    r.warnings = noticesFrom [] 0 es := by
  obtain ⟨limit, each, -, heach, rfl⟩ := validate_ok_iff.mp h
  have hwhole : s.wholeReport es = {} := by rw [wholeReport, hs.schema]; rfl
  show (([] ++ each.warnings) ++ []) ++ (s.wholeReport es).warnings = _
  rw [hwhole, List.append_nil, List.append_nil, List.nil_append, warnings_validateFrom hs heach]

/-- The report of a check without hooks notes each repeat once, in order and with the first
expression that it repeats, whatever rules are broken; what passes is left to the rules alone. There
is a report unless a broken rule cannot be worded. -/
theorem validate_notes_repeats (hs : s.Unhooked) (es : Filter) :
    (∀ r, s.validate es = .ok r →
      (∃ places, es.Noted places r.warnings) ∧
      r.warnings.length +
        (es.map fun e => (e.field.key, e.operator.key, e.value.wire)).toFinset.card = es.length ∧
      (r.isValid = true ↔ s.Fits es)) ∧
    (Answers (s.validate es) ↔
      (∀ limit, s.maxExpressions = some limit → limit < (es.length : Int) →
        ¬ (Data.int limit).Oversized) ∧ ∀ e ∈ es, ¬ s.CannotReport e) := by
  refine ⟨fun r h => ⟨?noted, ?count, ?valid⟩, answers_validate⟩
  case noted =>
    rw [warnings_validate hs h]
    exact noted_notices es
  case count =>
    rw [warnings_validate hs h]
    exact length_notices es
  case valid =>
    rw [← validates_iff_fits hs, Validates]
    simp only [h, Except.ok.injEq, exists_eq_left']

/-- Five expressions that say two things, of which one breaks a rule wherever it stands and the
other is used too often. -/
theorem validate_notes_repeats_broken :
    let s : Schema :=
      { fields :=
          [{ key := "colour", label := "Colour", allowMultiple := false
             operators := [{ key := "is", label := "is" }] }] }
    let es : Filter :=
      [.plain "colour" "is" "red" "AND", .plain "shape" "is" "round" "AND",
        .plain "colour" "is" "red", .plain "shape" "is" "round" "AND", .plain "colour" "is" "red"]
    s.Unhooked ∧ ∃ r, s.validate es = .ok r ∧
      r.warnings.map (·.message) =
        ["Expression 3 duplicates expression 1", "Expression 4 duplicates expression 2",
          "Expression 5 duplicates expression 1"] ∧
      (∃ places, es.Noted places r.warnings) ∧ r.warnings.length + 2 = es.length ∧
      ¬ s.Fits es := by
  intro s es
  have hs : s.Unhooked := ⟨rfl, by simp [s], by simp [s]⟩
  have hr : s.validate es = .ok _ := rfl
  obtain ⟨hnoted, hcount, hvalid⟩ := (validate_notes_repeats hs es).1 _ hr
  exact ⟨hs, _, hr, by decide, hnoted, hcount, fun h => nomatch hvalid.mpr h⟩

/-- A repeat is not noted if the number of values that both expressions should have is too long to
be written. -/
theorem validate_stops_at_long_count :
    let count : Int := (10 ^ Numeral.digitLimit : Nat)
    let op : Operator :=
      { key := "in", label := "in", multiValue := some { count := .number count } }
    let tags : Field := { key := "tags", label := "Tags", operators := [op] }
    let s : Schema := { fields := [tags] }
    let red : Condition := ⟨tags.ref, op.ref, ⟨.list [.text "red"], "red", "red"⟩⟩
    let es : Filter := [⟨red, some "AND"⟩, ⟨red, none⟩]
    s.Unhooked ∧ es.IsRepeat 1 ∧ s.validate es = .error .digitLimit := by
  intro count op tags s red es
  have hmany : 1 < count := Numeral.one_lt_pow_digitLimit
  have hlong : (Data.int count).Unwritable := Data.unwritable_pow
  -- The number itself is never computed.
  clear_value count
  have hs : s.Unhooked := ⟨rfl, by simp [s, tags], by simp [s, tags, op]⟩
  have hrepeat : es.IsRepeat 1 := ⟨_, rfl, _, .head _, ⟨rfl, rfl, rfl⟩⟩
  have hreport : s.CannotReport ⟨red, some "AND"⟩ :=
    cannotReport_of_long_count rfl rfl rfl rfl hmany hlong rfl
  exact ⟨hs, hrepeat, validate_error_of_first rfl hreport⟩

end Schema

end Criteria
