import Criteria.Proofs.Fault
import Criteria.Schema.Config

/-!
# Schemas from a configuration

A configuration holds data only, so a schema that is read from one has no hooks, and its only
sources of values are fixed choices (`ofData_plain`). It has fields, and each field has
operators.
-/

namespace Criteria

/-- An operator that was written down: it has no hooks and no source of values. -/
structure Operator.Plain (op : Operator) : Prop where
  check : op.check = none
  provider : op.provider = none

structure Field.Plain (f : Field) : Prop where
  check : f.check = none
  store : f.store = none
  restore : f.restore = none
  provider : ∀ p, f.provider = some p → ∃ entries, p = .choices entries
  operators : ∀ op ∈ f.operators, op.Plain
  nonempty : f.operators ≠ []

structure Schema.Plain (s : Schema) : Prop where
  check : s.check = none
  store : s.store = none
  restore : s.restore = none
  fields : ∀ f ∈ s.fields, f.Plain
  nonempty : s.fields ≠ []

namespace Config

theorem standard_plain : (FieldType.standard key label symbol form).Plain := ⟨rfl, rfl⟩

theorem operators_standard (type : String) :
    (∀ op ∈ FieldType.operators type, op.Plain) ∧ FieldType.operators type ≠ [] := by
  unfold FieldType.operators
  split <;> exact ⟨by simp [FieldType.numberOperators, FieldType.dateOperators,
    FieldType.booleanOperators, FieldType.enumOperators, FieldType.idOperators,
    FieldType.textOperators, standard_plain], nofun⟩

theorem operator_plain {d : Data} (h : operator key type d = .ok op) : op.Plain := by
  cases d with
  | text name =>
    simp only [operator] at h
    split at h
    next hf =>
      cases h
      exact (operators_standard type).1 _ (List.mem_of_find?_eq_some hf)
    · cases h
  | record entries =>
    obtain ⟨_, -, h⟩ := bind_ok.mp h
    obtain ⟨_, -, h⟩ := bind_ok.mp h
    obtain ⟨_, -, h⟩ := bind_ok.mp h
    obtain ⟨_, -, h⟩ := bind_ok.mp h
    cases h
    exact ⟨rfl, rfl⟩
  | _ => cases h

theorem operators_plain {d : Data} (h : operators key type d = .ok ops) :
    (∀ op ∈ ops, op.Plain) ∧ ops ≠ [] := by
  unfold operators at h
  split at h
  · cases h
    exact operators_standard type
  next first rest =>
    refine ⟨fun op hop => ?_, ?_⟩
    · obtain ⟨d, -, hd⟩ := (mem_mapM_iff h).mp hop
      exact operator_plain hd
    · rintro rfl
      rw [List.mapM_cons] at h
      obtain ⟨_, -, h⟩ := bind_ok.mp h
      obtain ⟨_, -, h⟩ := bind_ok.mp h
      cases pure_ok.mp h
  · cases h

theorem provider_choices {d : Option Data} (h : provider key d = .ok (some p)) :
    ∃ entries, p = .choices entries := by
  cases d with
  | none => cases h
  | some values =>
    cases values with
    | record entries =>
      cases h
      exact ⟨_, rfl⟩
    | list items =>
      simp only [provider, choices, Provider.ofValues] at h
      cases hm : items.mapM Data.toText with
      | ok texts =>
        rw [hm] at h
        cases h
        exact ⟨_, rfl⟩
      | error f =>
        rw [hm] at h
        cases h
    | _ => cases h

theorem field_plain {d : Data} (h : field i d = .ok f) : f.Plain := by
  cases d with
  | record entries =>
    obtain ⟨key, -, h⟩ := bind_ok.mp h
    obtain ⟨label, -, h⟩ := bind_ok.mp h
    obtain ⟨_, -, h⟩ := bind_ok.mp h
    obtain ⟨type, -, h⟩ := bind_ok.mp h
    obtain ⟨ops, hops, h⟩ := bind_ok.mp h
    obtain ⟨_, -, h⟩ := bind_ok.mp h
    obtain ⟨_, -, h⟩ := bind_ok.mp h
    obtain ⟨offered, hoffered, h⟩ := bind_ok.mp h
    cases h
    obtain ⟨hplain, hne⟩ := operators_plain hops
    exact {
      check := rfl
      store := rfl
      restore := rfl
      provider := by
        rintro p rfl
        exact provider_choices hoffered
      operators := hplain
      nonempty := hne }
  | _ => cases h

theorem fields_plain {items : List Data} (h : fields i items = .ok fs) :
    (∀ f ∈ fs, f.Plain) ∧ fs.length = items.length := by
  induction items generalizing i fs with
  | nil =>
    cases h
    exact ⟨nofun, rfl⟩
  | cons item items ih =>
    obtain ⟨first, hfirst, h⟩ := bind_ok.mp h
    obtain ⟨rest, hrest, h⟩ := bind_ok.mp h
    cases h
    obtain ⟨hplain, hlength⟩ := ih hrest
    exact ⟨List.forall_mem_cons.mpr ⟨field_plain hfirst, hplain⟩, congrArg (· + 1) hlength⟩

end Config

open Config

theorem Schema.ofData_plain {d : Data} (h : Schema.ofData d = .ok s) : s.Plain := by
  unfold Schema.ofData at h
  split at h
  · split at h
    next item items _ =>
      obtain ⟨fs, hfields, h⟩ := bind_ok.mp h
      obtain ⟨_, -, h⟩ := bind_ok.mp h
      obtain ⟨_, -, h⟩ := bind_ok.mp h
      cases h
      obtain ⟨hplain, hlength⟩ := fields_plain hfields
      exact {
        check := rfl
        store := rfl
        restore := rfl
        fields := hplain
        nonempty := List.ne_nil_of_length_eq_add_one hlength }
    · cases h
  · cases h

end Criteria
