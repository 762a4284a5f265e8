import Criteria.Validation.Schema
import Criteria.Proofs.Fault

/-!
# Accepted schemas

A schema that passes its own check can be looked things up in: no two of its fields have one
key, so a field is found under its key.
-/

namespace Criteria.Schema

def Accepted (s : Schema) : Prop := ∃ r, s.selfCheck = .ok r ∧ r.isValid = true

variable {s : Schema} {f : Field} {fs : List Field}

theorem accepted_iff : s.Accepted ↔ s.problems = [] := by
  constructor
  · rintro ⟨r, hr, hv⟩
    obtain ⟨errors, he, hr⟩ := bind_ok.mp hr
    obtain rfl := pure_ok.mp hr
    obtain rfl : errors = [] := List.isEmpty_iff.mp hv
    exact List.forall₂_nil_right_iff.mp (mapM_forall₂ he)
  · intro h
    exact ⟨{}, by rw [selfCheck, h]; rfl, rfl⟩

theorem fieldProblems_eq_nil_iff : fieldProblems seen fs = [] ↔
    (∀ f ∈ fs, f.key ∉ seen ∧ operatorProblems f = []) ∧ (fs.map (·.key)).Nodup := by
  induction fs generalizing seen with
  | nil => simp [fieldProblems]
  | cons f fs ih =>
    have hrepeated : (if seen.contains f.key then [.ok (.duplicateField f.key)] else [] :
        List (Except Fault SchemaProblem)) = [] ↔ f.key ∉ seen := by simp
    rw [fieldProblems, List.append_eq_nil_iff, List.append_eq_nil_iff, hrepeated, ih,
      List.forall_mem_cons, List.map_cons, List.nodup_cons]
    constructor
    · rintro ⟨hf, hall, hnodup⟩
      refine ⟨⟨hf, fun g hg => ⟨fun hmem => (hall g hg).1 (.tail _ hmem), (hall g hg).2⟩⟩,
        fun hmem => ?_, hnodup⟩
      obtain ⟨g, hg, hkey⟩ := List.mem_map.mp hmem
      exact (hall g hg).1 (hkey ▸ .head _)
    · rintro ⟨⟨hf, hall⟩, hnew, hnodup⟩
      refine ⟨hf, fun g hg => ⟨fun hmem => ?_, (hall g hg).2⟩, hnodup⟩
      rcases List.mem_cons.mp hmem with hkey | hmem
      · exact hnew (hkey ▸ List.mem_map_of_mem hg)
      · exact (hall g hg).1 hmem

theorem Accepted.fieldKeys_nodup (h : s.Accepted) : s.fieldKeys.Nodup := by
  have h := accepted_iff.mp h
  unfold problems at h
  split at h
  · cases h
  · exact (fieldProblems_eq_nil_iff.mp (List.append_eq_nil_iff.mp h).2).2

theorem find?_key {key : α → String} {x : α} {xs : List α} (hn : (xs.map key).Nodup)
    (hx : x ∈ xs) : xs.find? (key · == key x) = some x := by
  induction xs with
  | nil => cases hx
  | cons y xs ih =>
    obtain ⟨hy, hn⟩ := List.nodup_cons.mp hn
    rcases List.mem_cons.mp hx with rfl | hx
    · simp
    · have hne : key y ≠ key x := fun he => hy (List.mem_map.mpr ⟨x, hx, he.symm⟩)
      simpa [hne] using ih hn hx

theorem Accepted.field?_key_eq (h : s.Accepted) (hf : f ∈ s.fields) : s.field? f.key = some f :=
  find?_key h.fieldKeys_nodup hf

end Criteria.Schema
