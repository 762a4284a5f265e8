import Criteria.Proofs.Filter.Linked
import Criteria.Proofs.Validation.Expressions

/-!
# What the check of a filter finds

A filter passes the check if and only if it is not too long, each expression passes at its
place, the connectors stand where they should, no single-use field is used twice and the
schema's hook does not object (`validate_isValid_iff`).
-/

namespace Criteria

@[simp] theorem Report.isValid_mk (errors : List Problem) (warnings : List Notice) :
    (Report.mk errors warnings).isValid = errors.isEmpty := rfl

@[simp] theorem Report.isValid_append (a b : Report) :
    (a ++ b).isValid = (a.isValid && b.isValid) := by
  show (a.errors ++ b.errors).isEmpty = (a.errors.isEmpty && b.errors.isEmpty)
  cases a.errors <;> rfl

theorem isValid_append_iff {x y : Except Fault Report} :
    (∃ r, (do let a ← x; let b ← y; return a ++ b : Except Fault Report) = .ok r ∧
        r.isValid = true) ↔
      (∃ a, x = .ok a ∧ a.isValid = true) ∧ ∃ b, y = .ok b ∧ b.isValid = true := by
  constructor
  · rintro ⟨r, hr, hv⟩
    obtain ⟨a, ha, hr⟩ := bind_ok.mp hr
    obtain ⟨b, hb, hr⟩ := bind_ok.mp hr
    obtain rfl := pure_ok.mp hr
    rw [Report.isValid_append, Bool.and_eq_true] at hv
    exact ⟨⟨a, ha, hv.1⟩, ⟨b, hb, hv.2⟩⟩
  · rintro ⟨⟨a, ha, hva⟩, ⟨b, hb, hvb⟩⟩
    refine ⟨a ++ b, bind_ok.mpr ⟨a, ha, bind_ok.mpr ⟨b, hb, rfl⟩⟩, ?_⟩
    rw [Report.isValid_append, hva, hvb]
    rfl

namespace Filter

def uses (es : Filter) (key : String) : Nat := es.countP (·.field.key == key)

theorem uses_eq_count : uses es key = (es.map (·.field.key)).count key := by
  rw [List.count, List.countP_map]
  rfl

theorem uses_withLast : uses (withLast c es) key = uses es key := by
  rw [uses_eq_count, map_key_withLast, ← uses_eq_count]

end Filter

namespace Schema

open Criteria.Filter (Linked)

variable {s : Schema} {e : Expression} {es rest : Filter} {field : Field} {i : Nat}

-- ---------------------------------------------------------------------------
-- Single-use fields
-- ---------------------------------------------------------------------------

theorem length_usage : (usage es key).length = es.uses key := by
  have hp : (fun p : Expression × Nat => p.1.field.key == key) =
      (fun e : Expression => e.field.key == key) ∘ Prod.fst := rfl
  rw [usage, List.length_map, ← List.countP_eq_length_filter, Filter.uses, hp, ← List.countP_map,
    List.zipIdx_map_fst]

theorem singleUseErrors_eq_nil_iff :
    singleUseErrors es field = [] ↔ field.allowMultiple = true ∨ es.uses field.key ≤ 1 := by
  rw [← length_usage]
  unfold singleUseErrors
  cases field.allowMultiple with
  | true => simp
  | false =>
    rcases usage es field.key with - | ⟨first, - | ⟨second, more⟩⟩ <;> simp

-- ---------------------------------------------------------------------------
-- One place after the other
-- ---------------------------------------------------------------------------

def Passes (s : Schema) (es : Filter) (i : Nat) (e : Expression) : Prop :=
  ∃ r, s.validateExpression e (some i) es = .ok r ∧ r.isValid = true

theorem connectorErrors_last : connectorErrors i e true = [] ↔ e.connector = none := by
  unfold connectorErrors
  cases e.connector <;> simp

theorem connectorErrors_inner : connectorErrors i e false = [] ↔ e.connector ≠ none := by
  unfold connectorErrors
  cases e.connector <;> simp

theorem validateAt_isValid_iff :
    (∃ r, s.validateAt es seen i e isLast = .ok r ∧ r.isValid = true) ↔
      s.Passes es i e ∧ connectorErrors i e isLast = [] := by
  unfold validateAt Passes
  constructor
  · rintro ⟨r, hr, hv⟩
    obtain ⟨own, hown, hr⟩ := bind_ok.mp hr
    obtain rfl := pure_ok.mp hr
    simp only [Report.isValid_append, Report.isValid_mk, Bool.and_eq_true, List.isEmpty_iff] at hv
    exact ⟨⟨own, hown, hv.1⟩, hv.2⟩
  · rintro ⟨⟨own, hown, hv⟩, hc⟩
    refine ⟨_, bind_ok.mpr ⟨own, hown, rfl⟩, ?_⟩
    simp only [Report.isValid_append, Report.isValid_mk, Bool.and_eq_true, List.isEmpty_iff]
    exact ⟨hv, hc⟩

theorem validateFrom_cons_ok_iff : s.validateFrom es seen i (e :: rest) = .ok r ↔
    ∃ own later, s.validateExpression e (some i) es = .ok own ∧
      s.validateFrom es (seen ++ [signature e]) (i + 1) rest = .ok later ∧
      r = own ++ { errors := connectorErrors i e rest.isEmpty,
                   warnings := duplicateNotices seen i e } ++ later := by
  constructor
  · intro h
    obtain ⟨here, hhere, h⟩ := bind_ok.mp h
    obtain ⟨later, hlater, h⟩ := bind_ok.mp h
    obtain ⟨own, hown, hhere⟩ := bind_ok.mp hhere
    obtain rfl := pure_ok.mp hhere
    exact ⟨own, later, hown, hlater, (pure_ok.mp h).symm⟩
  · rintro ⟨own, later, hown, hlater, rfl⟩
    exact bind_ok.mpr ⟨_, bind_ok.mpr ⟨own, hown, rfl⟩, bind_ok.mpr ⟨later, hlater, rfl⟩⟩

/-- The places of a filter pass if each expression does and the connectors between them
stand where they should. -/
theorem validateFrom_isValid_iff :
    (∃ r, s.validateFrom es seen i rest = .ok r ∧ r.isValid = true) ↔
      (∀ p ∈ rest.zipIdx i, s.Passes es p.2 p.1) ∧ Linked rest := by
  induction rest generalizing seen i with
  | nil => simpa [validateFrom] using Filter.linked_nil
  | cons e rest ih =>
    rw [validateFrom, isValid_append_iff, validateAt_isValid_iff, ih]
    cases rest with
    | nil => simp [connectorErrors_last, Filter.linked_singleton, Filter.linked_nil]
    | cons e' rest =>
      simp only [List.isEmpty_cons, connectorErrors_inner, List.zipIdx_cons, List.forall_mem_cons,
        Filter.linked_cons (List.cons_ne_nil e' rest)]
      constructor
      · rintro ⟨⟨hp, hc⟩, hall, hl⟩
        exact ⟨⟨hp, hall⟩, hc, hl⟩
      · rintro ⟨⟨hp, hall⟩, hc, hl⟩
        exact ⟨⟨hp, hc⟩, hall, hl⟩

-- ---------------------------------------------------------------------------
-- The filter as a whole
-- ---------------------------------------------------------------------------

theorem limitErrors_eq_nil_iff : s.limitErrors es = .ok [] ↔
    ∀ limit, s.maxExpressions = some limit → (es.length : Int) ≤ limit := by
  unfold limitErrors
  cases s.maxExpressions with
  | none => simp
  | some limit =>
    by_cases hlt : limit < (es.length : Int)
    · simp only [if_pos hlt, Option.some.injEq, forall_eq', Int.not_le.mpr hlt, iff_false]
      intro h
      obtain ⟨shown, -, h⟩ := bind_ok.mp h
      cases h
    · simp [if_neg hlt, Int.not_lt.mp hlt]

def wholeReport (s : Schema) (es : Filter) : Report := (s.check.map (· es)).getD {}

theorem wholeReport_isValid_iff : (s.wholeReport es).isValid = true ↔
    ∀ check, s.check = some check → (check es).isValid = true := by
  unfold wholeReport
  cases s.check <;> simp

theorem validate_eq : s.validate es = do
    let limit ← s.limitErrors es
    let each ← s.validateFrom es [] 0 es
    return { errors := limit } ++ each ++ { errors := s.fields.flatMap (singleUseErrors es) } ++
      s.wholeReport es := by
  unfold validate wholeReport
  cases s.check <;> rfl

theorem validate_ok_iff : s.validate es = .ok r ↔
    ∃ limit each, s.limitErrors es = .ok limit ∧ s.validateFrom es [] 0 es = .ok each ∧
      r = { errors := limit } ++ each ++ { errors := s.fields.flatMap (singleUseErrors es) } ++
        s.wholeReport es := by
  rw [validate_eq]
  constructor
  · intro h
    obtain ⟨limit, hlimit, h⟩ := bind_ok.mp h
    obtain ⟨each, heach, h⟩ := bind_ok.mp h
    exact ⟨limit, each, hlimit, heach, (pure_ok.mp h).symm⟩
  · rintro ⟨limit, each, hlimit, heach, rfl⟩
    exact bind_ok.mpr ⟨limit, hlimit, bind_ok.mpr ⟨each, heach, rfl⟩⟩

theorem validate_isValid_iff :
    (∃ r, s.validate es = .ok r ∧ r.isValid = true) ↔
      (∀ limit, s.maxExpressions = some limit → (es.length : Int) ≤ limit) ∧
        ((∀ p ∈ es.zipIdx, s.Passes es p.2 p.1) ∧ Linked es) ∧
        (∀ field ∈ s.fields, field.allowMultiple = true ∨ es.uses field.key ≤ 1) ∧
        ∀ check, s.check = some check → (check es).isValid = true := by
  have hplaces : (∃ r, s.validateFrom es [] 0 es = .ok r ∧ r.isValid = true) ↔
      (∀ p ∈ es.zipIdx, s.Passes es p.2 p.1) ∧ Linked es := validateFrom_isValid_iff
  have hsingle : s.fields.flatMap (singleUseErrors es) = [] ↔
      ∀ field ∈ s.fields, field.allowMultiple = true ∨ es.uses field.key ≤ 1 := by
    simp only [List.flatMap_eq_nil_iff, singleUseErrors_eq_nil_iff]
  rw [← limitErrors_eq_nil_iff, ← hplaces, ← hsingle, ← wholeReport_isValid_iff]
  constructor
  · rintro ⟨r, hr, hv⟩
    obtain ⟨limit, each, hlimit, heach, rfl⟩ := validate_ok_iff.mp hr
    simp only [Report.isValid_append, Report.isValid_mk, Bool.and_eq_true, List.isEmpty_iff] at hv
    obtain ⟨⟨⟨rfl, hve⟩, hvs⟩, hvw⟩ := hv
    exact ⟨hlimit, ⟨each, heach, hve⟩, hvs, hvw⟩
  · rintro ⟨hlimit, ⟨each, heach, hve⟩, hvs, hvw⟩
    refine ⟨_, validate_ok_iff.mpr ⟨[], each, hlimit, heach, rfl⟩, ?_⟩
    simp only [Report.isValid_append, Report.isValid_mk, Bool.and_eq_true, List.isEmpty_iff]
    exact ⟨⟨⟨trivial, hve⟩, hvs⟩, hvw⟩

end Schema

end Criteria
