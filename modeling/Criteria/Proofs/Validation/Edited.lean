import Mathlib.Data.List.Perm.Basic
import Criteria.Proofs.Machine.AtomicEdits

/-!
# Edits of a valid filter

An edit looks at one expression, while the check of a filter also looks at the limit, at the
connectors and at how often a field is used. Where no check is left to a hook, an edit that keeps
the field of its expression can break none of these rules. An edit of the field can break one: it
may use a single-use field again, and it does so exactly if another expression uses it.
-/

namespace Criteria

open Criteria.Filter (Linked)

-- ---------------------------------------------------------------------------
-- One expression exchanged or removed
-- ---------------------------------------------------------------------------

namespace Filter

variable {es : Filter} {e : Expression} {i : Nat} {key : String}

theorem uses_set (hi : i < es.length) : uses (es.set i e) key =
    uses (es.eraseIdx i) key + if e.field.key = key then 1 else 0 := by
  rw [← Schema.uses_cons]
  -- Uses are counted in any order, so the new expression may as well stand in front.
  exact (List.set_perm_cons_eraseIdx hi e).countP_eq _

theorem uses_eraseIdx_le : uses (es.eraseIdx i) key ≤ uses es key :=
  (List.eraseIdx_sublist es i).countP_le

theorem uses_set_of_key (he : es[i]? = some e) (hkey : e'.field.key = e.field.key) :
    uses (es.set i e') key = uses es key := by
  obtain ⟨hi, rfl⟩ := List.getElem?_eq_some_iff.mp he
  have hsame : uses (es.set i es[i]) key = uses (es.set i e') key := by
    rw [uses_set hi, uses_set hi, hkey]
  rw [← hsame, List.set_getElem_self]

theorem uses_eraseIdx_eq_zero_iff : uses (es.eraseIdx i) key = 0 ↔
    ∀ j e, j ≠ i → es[j]? = some e → e.field.key ≠ key := by
  simp only [uses, List.countP_eq_zero, List.mem_eraseIdx_iff_getElem?, beq_iff_eq]
  constructor
  · intro h j e hj he
    exact h e ⟨j, hj, he⟩
  · rintro h e ⟨j, hj, he⟩
    exact h j e hj he

end Filter

theorem Edit.Turns.linked (h : Edit.Turns edit e e') (he : es[i]? = some e) (hl : Linked es) :
    Linked (es.set i e') := by
  cases h with
  | value | operator | field => exact hl.congr (Filter.connectors_set he rfl)
  | connector hn => exact hl.set he hn (by simp)

namespace Schema

-- ---------------------------------------------------------------------------
-- Valid filters
-- ---------------------------------------------------------------------------

def Validates (s : Schema) (es : Filter) : Prop :=
  ∃ r, s.validate es = .ok r ∧ r.isValid = true

/-- The rules for a filter where no check is left to a hook. -/
structure Fits (s : Schema) (es : Filter) : Prop where
  limit : ∀ limit, s.maxExpressions = some limit → (es.length : Int) ≤ limit
  conditions : ∀ e ∈ es, s.Admits e.condition
  linked : Linked es
  single : ∀ field ∈ s.fields, field.allowMultiple = true ∨ es.uses field.key ≤ 1

variable {s : Schema} {es fs : Filter} {e e' : Expression} {edit : Edit} {i : Nat}

theorem passes_iff_admits (hs : s.Unhooked) : s.Passes es i e ↔ s.Admits e.condition := by
  refine ⟨fun h => ?_, validateExpression_of_admits hs⟩
  obtain ⟨field, op, hf, ho, hv, -⟩ := validateExpression_isValid_iff.mp h
  exact ⟨field, op, hf, ho, hv⟩

theorem validates_iff_fits (hs : s.Unhooked) : s.Validates es ↔ s.Fits es := by
  have hplaces : (∀ p ∈ es.zipIdx, s.Passes es p.2 p.1) ↔ ∀ e ∈ es, s.Admits e.condition := by
    -- Without hooks the place of an expression has no part in its check.
    have hmap := @List.forall_mem_map _ _ Prod.fst (es.zipIdx) fun e => s.Admits e.condition
    simp only [passes_iff_admits hs, ← hmap, List.zipIdx_map_fst]
  rw [Validates, validate_isValid_iff, hplaces]
  constructor
  · rintro ⟨hlimit, ⟨hconditions, hlinked⟩, hsingle, -⟩
    exact ⟨hlimit, hconditions, hlinked, hsingle⟩
  · rintro ⟨hlimit, hconditions, hlinked, hsingle⟩
    exact ⟨hlimit, ⟨hconditions, hlinked⟩, hsingle, fun check hc => by simp [hs.schema] at hc⟩

-- ---------------------------------------------------------------------------
-- What an edit keeps
-- ---------------------------------------------------------------------------

theorem Fits.set_iff (h : s.Fits es) (he : es[i]? = some e) (ht : edit.Turns e e')
    (hc : s.Admits e'.condition) : s.Fits (es.set i e') ↔
      ∀ field ∈ s.fields, field.allowMultiple = true ∨ Filter.uses (es.set i e') field.key ≤ 1 := by
  refine ⟨Fits.single, fun hsingle => ⟨?limit, ?conditions, ht.linked he h.linked, hsingle⟩⟩
  case limit => simpa using h.limit
  case conditions =>
    intro x hx
    rcases List.mem_or_eq_of_mem_set hx with hx | rfl
    · exact h.conditions x hx
    · exact hc

theorem Fits.set_of_key (h : s.Fits es) (he : es[i]? = some e) (ht : edit.Turns e e')
    (hc : s.Admits e'.condition) (hkey : e'.field.key = e.field.key) : s.Fits (es.set i e') := by
  refine (h.set_iff he ht hc).mpr fun field hf => ?_
  rw [Filter.uses_set_of_key he hkey]
  exact h.single field hf

theorem Fits.remove (h : s.Fits es) (i : Nat) :
    s.Fits (Filter.withLast none (es.eraseIdx i)) where
  limit limit hl := by
    have hle := h.limit limit hl
    have hlength : (es.eraseIdx i).length ≤ es.length := (List.eraseIdx_sublist es i).length_le
    rw [Filter.length_withLast]
    omega
  conditions := by
    have hall : ∀ c ∈ (es.eraseIdx i).map (·.condition), s.Admits c :=
      List.forall_mem_map.mpr fun e he => h.conditions e (List.mem_of_mem_eraseIdx he)
    rw [← Filter.map_condition_withLast (c := none)] at hall
    exact List.forall_mem_map.mp hall
  linked := h.linked.connected.eraseIdx.linked_withLast
  single field hf := by
    rw [Filter.uses_withLast]
    exact (h.single field hf).imp_right (Nat.le_trans Filter.uses_eraseIdx_le)

theorem Fits.refield_iff (h : s.Fits es) (hi : i < es.length) :
    (∀ field ∈ s.fields, field.allowMultiple = true ∨ Filter.uses (es.set i e') field.key ≤ 1) ↔
      (∀ field ∈ s.fields, field.key = e'.field.key → field.allowMultiple = true) ∨
        ∀ j e, j ≠ i → es[j]? = some e → e.field.key ≠ e'.field.key := by
  rw [← Filter.uses_eraseIdx_eq_zero_iff]
  simp only [Filter.uses_set hi]
  constructor
  · intro hsingle
    refine Classical.or_iff_not_imp_right.mpr fun hused field hf hkey => ?_
    refine (hsingle field hf).resolve_right fun hle => hused ?_
    -- The one use that is allowed is the new one.
    rw [hkey, if_pos rfl] at hle
    omega
  · intro hproviso field hf
    by_cases hkey : e'.field.key = field.key
    · rw [if_pos hkey]
      rcases hproviso with hmultiple | hunused
      · exact .inl (hmultiple field hf hkey.symm)
      · rw [← hkey, hunused]
        exact .inr (Nat.le_refl 1)
    · rw [if_neg hkey]
      exact (h.single field hf).imp_right (Nat.le_trans Filter.uses_eraseIdx_le)

theorem Fits.admits_turned (h : s.Fits es) (hs : s.Unhooked) (he : es[i]? = some e)
    (ht : edit.Turns e e') (hp : edit.Passes schema fs i e')
    (hschema : edit.isChecked = true → schema = some s) : s.Admits e'.condition := by
  cases ht with
  | connector => exact h.conditions e (List.mem_of_getElem? he)
  | value | operator | field => exact (passes_iff_admits hs).mp (hp rfl s (hschema rfl))

-- ---------------------------------------------------------------------------
-- Edits of a valid filter
-- ---------------------------------------------------------------------------

/-- An edit that succeeds on a valid filter leaves it valid, as long as it keeps the field of its
expression. With another field the filter is valid exactly if that field may be used several times
or is not used by another expression. -/
theorem validate_edited (hs : s.Unhooked) (hv : s.Validates es) :
    (∀ (edit : Edit) index schema trailing r, edit.apply es index schema trailing = .ok r →
      r.success = true → (edit.isChecked = true → schema = some s) →
      (edit = .delete → trailing = none) → (∀ f o v, edit ≠ .field f o v) →
        s.Validates r.expressions) ∧
    ∀ (f : FieldRef) o v index trailing r,
      (Edit.field f o v).apply es index (some s) trailing = .ok r → r.success = true →
        (s.Validates r.expressions ↔
          (∀ field ∈ s.fields, field.key = f.key → field.allowMultiple = true) ∨
            ∀ (j : Nat) e, (j : Int) ≠ index → es[j]? = some e → e.field.key ≠ f.key) := by
  have hfits : s.Fits es := (validates_iff_fits hs).mp hv
  constructor
  · intro edit index schema trailing r ha hr hschema htrailing hfield
    rw [Edit.eq_done_of_success ha hr] at ha
    rw [validates_iff_fits hs]
    obtain ⟨i, e, -, he, ⟨rfl, hfs⟩ | ⟨e', ht, hfs, hp⟩⟩ := Edit.apply_done_iff.mp ha
    · rw [hfs, htrailing rfl]
      exact hfits.remove i
    · have hkey : e'.field.key = e.field.key := by
        cases ht with
        | field => exact absurd rfl (hfield _ _ _)
        | value | operator | connector => rfl
      rw [hfs]
      exact hfits.set_of_key he ht (hfits.admits_turned hs he ht hp hschema) hkey
  · intro f o v index trailing r ha hr
    rw [Edit.eq_done_of_success ha hr] at ha
    obtain ⟨i, e, rfl, he, ⟨hd, -⟩ | ⟨e', ht, hfs, hp⟩⟩ := Edit.apply_done_iff.mp ha
    · cases hd
    · have hadmits := hfits.admits_turned hs he ht hp fun _ => rfl
      rw [validates_iff_fits hs, hfs, hfits.set_iff he ht hadmits,
        hfits.refield_iff (List.getElem?_eq_some_iff.mp he).1]
      cases ht
      simp only [ne_eq, Int.natCast_inj]
      rfl

/-- A single-use field that is kept, given up, and used again. -/
theorem validate_edited_single :
    let s : Schema :=
      { fields :=
          [{ key := "size", label := "Size", operators := [{ key := "is", label := "is" }] },
            { key := "colour", label := "Colour", allowMultiple := false
              operators := [{ key := "is", label := "is" }] }] }
    let colour : FieldRef := { key := "colour", label := "Colour" }
    let is : OperatorRef := { key := "is", label := "is" }
    let blue : Value := ⟨.text "blue", "blue", "blue"⟩
    let es : Filter := [.plain "colour" "is" "red" "AND", .plain "size" "is" "small"]
    s.Unhooked ∧ s.Validates es ∧
      (∃ r, (Edit.value blue).apply es 0 (some s) none = .ok r ∧ s.Validates r.expressions) ∧
      (∃ r, Edit.delete.apply es 1 none none = .ok r ∧ s.Validates r.expressions) ∧
      (∃ r, (Edit.field colour is blue).apply es 0 (some s) none = .ok r ∧
        s.Validates r.expressions) ∧
      ∃ r, (Edit.field colour is blue).apply es 1 (some s) none = .ok r ∧
        r.success = true ∧ ¬ s.Validates r.expressions := by
  intro s colour is blue es
  have hs : s.Unhooked := ⟨rfl, by simp [s], by simp [s]⟩
  have hv : s.Validates es := ⟨{}, rfl, rfl⟩
  obtain ⟨hkept, hfield⟩ := validate_edited hs hv
  have hvalue : (Edit.value blue).apply es 0 (some s) none = .ok _ := rfl
  have hdelete : Edit.delete.apply es 1 none none = .ok _ := rfl
  have hsame : (Edit.field colour is blue).apply es 0 (some s) none = .ok _ := rfl
  have hagain : (Edit.field colour is blue).apply es 1 (some s) none = .ok _ := rfl
  refine ⟨hs, hv, ⟨_, hvalue, ?value⟩, ⟨_, hdelete, ?delete⟩, ⟨_, hsame, ?same⟩,
    _, hagain, rfl, ?again⟩
  case value => exact hkept _ _ _ _ _ hvalue rfl (fun _ => rfl) nofun nofun
  case delete => exact hkept _ _ _ _ _ hdelete rfl nofun (fun _ => rfl) nofun
  case same =>
    refine (hfield _ _ _ _ _ _ hsame rfl).mpr (.inr fun j e hj he => ?_)
    match j, he with
    | 0, _ => exact absurd rfl hj
    | 1, he => cases he; decide
  case again =>
    rw [hfield _ _ _ _ _ _ hagain rfl]
    rintro (hmultiple | hunused)
    · exact absurd (hmultiple _ (.tail _ (.head _)) rfl) (by decide)
    · exact hunused 0 _ (by decide) rfl rfl

end Schema

end Criteria
