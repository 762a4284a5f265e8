import Criteria.Schema.Combine
import Criteria.Proofs.Wire.Answers

/-!
# Restoring with fewer fields

A schema may be restricted to some of its fields. An entry in which one of the other fields is
looked up becomes an unknown field; every other entry is restored as with all the fields
(`restore_restrict_hidden`, `restore_restrict_seen`). So restricting a schema takes the conditions
on the other fields away, each with an error at its place, and changes nothing else but the
connectors, which depend on the neighbours that are kept.
-/

namespace Criteria

def Schema.restrict (s : Schema) (keep : String → Bool) : Schema :=
  { s with fields := s.fields.filter (keep ·.key) }

namespace Entry

inductive LooksUp : Data → String → Prop
  | intro (hf : Data.lookup "field" entries = some (.text key))
      (ho : Data.lookup "operator" entries = some (.text operator))
      (hv : Data.lookup "value" entries = some stored) : LooksUp (.record entries) key

def Seen (keep : String → Bool) (item : Data) : Prop :=
  ∀ key, LooksUp item key → keep key = true

end Entry

def RestoreError.unknownAt (i : Nat) (key : String) : RestoreError where
  index := some i
  cause := .entry (.unknownField key)
  field := some key

namespace Schema

/-- What restoring a list with some of the fields gives (`kept`), told by what it gives with all
of them (`r`). -/
structure RestoresKept (s : Schema) (options : RestoreOptions) (keep : String → Bool)
    (data : List Data) (r kept : Restoration) : Prop where
  conditions : kept.expressions.map (·.condition) =
    (r.expressions.map (·.condition)).filter (keep ·.field.key)
  linked : kept.expressions.linkProblem? = none
  /-- An entry that had no error gave an expression, and has an error now just if the field is
  not kept. -/
  lost : ∀ i item, data[i]? = some item → (∀ error ∈ r.errors, error.index ≠ some i) →
    ∃ e, Entry.restore s options item = .ok (.ok e) ∧
      ∀ error, error.index = some i → (error ∈ kept.errors ↔
        keep e.field.key = false ∧ error = .unknownAt i e.field.key)
  failed : ∀ error ∈ r.errors, ∃ error' ∈ kept.errors, error'.index = error.index
  /-- Where a field that is not kept is looked up, it is unknown; every other error stays as
  it is. -/
  errors : ∀ error, error ∈ kept.errors ↔ ∃ i item, data[i]? = some item ∧
    ((∃ key, Entry.LooksUp item key ∧ keep key = false ∧ error = .unknownAt i key) ∨
      (Entry.Seen keep item ∧ error ∈ r.errors ∧ error.index = some i))

end Schema

section
variable {s : Schema} {keep : String → Bool} {options : RestoreOptions} {data : List Data}
  {item : Data} {key : String} {es : List Expression} {e : Expression}
  {errors kept : List RestoreError} {error : RestoreError} {entries : Entry.Fields} {i : Nat}
  {r : Restoration}

-- ---------------------------------------------------------------------------
-- Fields
-- ---------------------------------------------------------------------------

theorem Schema.field?_restrict_of_kept (h : keep key = true) :
    (s.restrict keep).field? key = s.field? key := by
  rw [field?, restrict, List.find?_filter]
  refine congrArg (s.fields.find? ·) (funext fun f => ?_)
  by_cases hf : f.key = key
  · simp [hf, h]
  · simp [hf]

theorem Schema.field?_restrict_of_hidden (h : keep key = false) :
    (s.restrict keep).field? key = none := by
  refine List.find?_eq_none.mpr fun f hf hkey => ?_
  have hkept : keep f.key = true := (List.mem_filter.mp hf).2
  rw [eq_of_beq hkey, h] at hkept
  cases hkept

-- ---------------------------------------------------------------------------
-- One entry
-- ---------------------------------------------------------------------------

namespace Entry

theorem LooksUp.unique (h : LooksUp item key) (h' : LooksUp item key') : key = key' := by
  obtain ⟨hf, -, -⟩ := h
  obtain ⟨hf', -, -⟩ := h'
  exact Data.text.inj (Option.some.inj (hf.symm.trans hf'))

theorem LooksUp.fieldKey? (h : LooksUp item key) : fieldKey? item = some key := by
  obtain ⟨hf, -, -⟩ := h
  simp only [Entry.fieldKey?, hf]
  rfl

theorem seen_or_hidden (keep : String → Bool) (item : Data) :
    Seen keep item ∨ ∃ key, LooksUp item key ∧ keep key = false := by
  refine or_iff_not_imp_right.mpr fun h key hkey => ?_
  exact Bool.of_not_eq_false fun hk => h ⟨key, hkey, hk⟩

theorem looksUp_of_restore (h : restore s options item = .ok (.ok e)) :
    LooksUp item e.field.key := by
  obtain ⟨hl, -, -⟩ := restore_ok_iff.mp h
  obtain ⟨⟨key, hf, hfield⟩, ⟨operator, ho, -⟩, hv⟩ := locate_ok_iff.mp hl
  have hkey := List.find?_some hfield
  obtain rfl := eq_of_beq hkey
  exact .intro hf ho hv

theorem locate_restrict_seen (h : Seen keep (.record entries)) :
    locate (s.restrict keep) entries = locate s entries := by
  unfold locate
  cases hf : requiredText entries "field" with
  | error => rfl
  | ok key =>
    cases ho : requiredText entries "operator" with
    | error => rfl
    | ok operator =>
      cases hv : Data.lookup "value" entries with
      | none => rfl
      | some stored =>
        have hkey : keep key = true :=
          h key (.intro (requiredText_ok_iff.mp hf) (requiredText_ok_iff.mp ho) hv)
        dsimp only [bind, Except.bind]
        rw [Schema.field?_restrict_of_kept hkey]

theorem restore_restrict_seen (h : Seen keep item) :
    restore (s.restrict keep) options item = restore s options item := by
  cases item with
  | record entries => simp only [restore, locate_restrict_seen h]
  | _ => rfl

theorem restore_restrict_hidden (h : LooksUp item key) (hk : keep key = false) :
    restore (s.restrict keep) options item = .ok (.error (.unknownField key)) := by
  cases h with
  | @intro entries key operator stored hf ho hv =>
    have hlocate : locate (s.restrict keep) entries = .error (.unknownField key) := by
      refine bind_error_later (requiredText_ok_iff.mpr hf) ?_
      refine bind_error_later (requiredText_ok_iff.mpr ho) ?_
      simp only [hv, Schema.field?_restrict_of_hidden hk]
    simp only [restore, hlocate]

-- ---------------------------------------------------------------------------
-- Lists of entries
-- ---------------------------------------------------------------------------

theorem Restores.mem_errors_zipIdx (h : Restores s options i data es errors) :
    error ∈ errors ↔ ∃ p ∈ data.zipIdx i, ∃ cause, restore s options p.1 = .ok (.error cause) ∧
      error = { index := some p.2, cause := .entry cause, field := fieldKey? p.1 } := by
  induction h with
  | nil => simp
  | keep h _ ih => simp [List.zipIdx_cons, h, ih]
  | skip h _ ih => simp [List.zipIdx_cons, h, ih]

theorem Restores.mem_errors_iff (h : Restores s options 0 data es errors) :
    error ∈ errors ↔ ∃ i item cause, data[i]? = some item ∧
      restore s options item = .ok (.error cause) ∧
        error = { index := some i, cause := .entry cause, field := fieldKey? item } := by
  rw [h.mem_errors_zipIdx]
  constructor
  · rintro ⟨⟨item, i⟩, hitem, cause, hcause, rfl⟩
    exact ⟨i, item, cause, List.mk_mem_zipIdx_iff_getElem?.mp hitem, hcause, rfl⟩
  · rintro ⟨i, item, cause, hitem, hcause, rfl⟩
    exact ⟨(item, i), List.mk_mem_zipIdx_iff_getElem?.mpr hitem, cause, hcause, rfl⟩

theorem Restores.answers (h : Restores s options i data es errors) :
    ∀ item ∈ data, Answers (restore s options item) := by
  induction h with
  | nil => nofun
  | keep h _ ih => exact List.forall_mem_cons.mpr ⟨⟨_, h⟩, ih⟩
  | skip h _ ih => exact List.forall_mem_cons.mpr ⟨⟨_, h⟩, ih⟩

theorem Restores.restrict (h : Restores s options i data es errors) (keep : String → Bool) :
    ∃ errors', Restores (s.restrict keep) options i data (es.filter (keep ·.field.key)) errors' := by
  induction h with
  | nil => exact ⟨[], .nil⟩
  | @keep item e i data es errors h _ ih =>
    obtain ⟨errors', rest⟩ := ih
    have hkey := looksUp_of_restore h
    cases hk : keep e.field.key with
    | true =>
      have hseen : Seen keep item := fun key hkey' => hkey.unique hkey' ▸ hk
      rw [List.filter_cons, if_pos hk]
      exact ⟨errors', .keep ((restore_restrict_seen hseen).trans h) rest⟩
    | false =>
      rw [List.filter_cons, if_neg (Bool.eq_false_iff.mp hk)]
      exact ⟨_, .skip (restore_restrict_hidden hkey hk) rest⟩
  | @skip item cause i data es errors h _ ih =>
    obtain ⟨errors', rest⟩ := ih
    obtain hseen | ⟨key, hkey, hk⟩ := seen_or_hidden keep item
    · exact ⟨_, .skip ((restore_restrict_seen hseen).trans h) rest⟩
    · exact ⟨_, .skip (restore_restrict_hidden hkey hk) rest⟩

section
variable (h : Restores s options 0 data es errors)
  (h' : Restores (s.restrict keep) options 0 data (es.filter (keep ·.field.key)) kept)
include h h'

theorem mem_errors_restrict : error ∈ kept ↔ ∃ i item, data[i]? = some item ∧
    ((∃ key, LooksUp item key ∧ keep key = false ∧ error = .unknownAt i key) ∨
      (Seen keep item ∧ error ∈ errors ∧ error.index = some i)) := by
  rw [h'.mem_errors_iff]
  constructor
  · rintro ⟨i, item, cause, hitem, hcause, rfl⟩
    refine ⟨i, item, hitem, ?_⟩
    obtain hseen | ⟨key, hkey, hk⟩ := seen_or_hidden keep item
    · rw [restore_restrict_seen hseen] at hcause
      exact .inr ⟨hseen, h.mem_errors_iff.mpr ⟨i, item, cause, hitem, hcause, rfl⟩, rfl⟩
    · rw [restore_restrict_hidden hkey hk] at hcause
      cases hcause
      exact .inl ⟨key, hkey, hk, hkey.fieldKey? ▸ rfl⟩
  · rintro ⟨i, item, hitem, ⟨key, hkey, hk, rfl⟩ | ⟨hseen, herror, hindex⟩⟩
    · exact ⟨i, item, _, hitem, restore_restrict_hidden hkey hk, hkey.fieldKey? ▸ rfl⟩
    · obtain ⟨k, item', cause, hitem', hcause, rfl⟩ := h.mem_errors_iff.mp herror
      obtain rfl := Option.some.inj hindex
      cases hitem.symm.trans hitem'
      exact ⟨k, item, cause, hitem, (restore_restrict_seen hseen).trans hcause, rfl⟩

theorem restoresKept_of_restores :
    s.RestoresKept options keep data (.ofParts es errors)
      (.ofParts (es.filter (keep ·.field.key)) kept) where
  conditions := by
    simp only [Restoration.ofParts, Filter.map_condition_joined]
    rw [List.filter_map]
    rfl
  linked := Filter.linkProblem?_eq_none_iff.mpr Filter.joined_linked
  lost i item hitem hnone := by
    obtain ⟨cause | e, he⟩ := h.answers item (List.mem_of_getElem? hitem)
    · exact absurd rfl (hnone _ (h.mem_errors_iff.mpr ⟨i, item, cause, hitem, he, rfl⟩))
    · have hkey := looksUp_of_restore he
      refine ⟨e, he, fun error hindex => (mem_errors_restrict h h').trans ?_⟩
      constructor
      · rintro ⟨j, item', hitem', ⟨key, hkey', hk, rfl⟩ | ⟨-, herror, -⟩⟩
        · obtain rfl : j = i := Option.some.inj hindex
          cases hitem.symm.trans hitem'
          obtain rfl := hkey.unique hkey'
          exact ⟨hk, rfl⟩
        · exact absurd hindex (hnone error herror)
      · rintro ⟨hk, rfl⟩
        exact ⟨i, item, hitem, .inl ⟨_, hkey, hk, rfl⟩⟩
  failed error herror := by
    obtain ⟨i, item, cause, hitem, -, rfl⟩ := h.mem_errors_iff.mp herror
    obtain hseen | ⟨key, hkey, hk⟩ := seen_or_hidden keep item
    · exact ⟨_, (mem_errors_restrict h h').mpr ⟨i, item, hitem, .inr ⟨hseen, herror, rfl⟩⟩, rfl⟩
    · exact ⟨_, (mem_errors_restrict h h').mpr ⟨i, item, hitem, .inl ⟨key, hkey, hk, rfl⟩⟩, rfl⟩
  errors error := mem_errors_restrict h h'

end

end Entry

theorem restoreFilter_restrict (hs : s.restore = none)
    (h : s.restoreFilter (.list data) options = .ok r) (keep : String → Bool) :
    ∃ kept, (s.restrict keep).restoreFilter (.list data) options = .ok kept ∧
      s.RestoresKept options keep data r kept := by
  obtain ⟨es, errors, hr, rfl⟩ := (restoreFilter_ok_iff hs).mp h
  obtain ⟨errors', hkept⟩ := hr.restrict keep
  exact ⟨_, (restoreFilter_ok_iff (s := s.restrict keep) hs).mpr ⟨_, _, hkept, rfl⟩,
    Entry.restoresKept_of_restores hr hkept⟩

/-- Picking fields keeps the conditions on them, and omitting the same fields keeps the others. -/
theorem restoreFilter_picked_or_omitted (hs : s.restore = none)
    (h : s.restoreFilter (.list data) options = .ok r) (keys : List String) :
    ∃ picked omitted, (s.pick keys).restoreFilter (.list data) options = .ok picked ∧
      (s.omitting keys).restoreFilter (.list data) options = .ok omitted ∧
        s.RestoresKept options (fun key => keys.contains key) data r picked ∧
          s.RestoresKept options (fun key => !keys.contains key) data r omitted := by
  obtain ⟨picked, hpicked, hkept⟩ := restoreFilter_restrict hs h fun key => keys.contains key
  obtain ⟨omitted, homitted, hothers⟩ := restoreFilter_restrict hs h fun key => !keys.contains key
  exact ⟨picked, omitted, hpicked, homitted, hkept, hothers⟩

/-- Two fields share a key, another has a hook. Of six entries three are kept with all the fields,
and each of them with the field it names. Where its field is not kept, the size that is refused
is an unknown field, and so is the operator that only the second of the two fields has. -/
theorem restoreFilter_picked_or_omitted_shared_key :
    let s : Schema :=
      { fields :=
          [{ key := "size", label := "Size", operators := [{ key := "is", label := "is" }]
             restore := some fun
               | .int n => .ok (.value ⟨.int n, "a size", "stored elsewhere"⟩)
               | _ => .error "no size" },
            { key := "colour", label := "Colour", operators := [{ key := "is", label := "is" }] },
            { key := "colour", label := "Shade", operators := [{ key := "not", label := "not" }] }] }
    let entry (field operator : String) (value : Data) (connector : List (Data × Data)) : Data :=
      .record ([(.text "field", .text field), (.text "operator", .text operator),
        (.text "value", value)] ++ connector)
    let data : List Data :=
      [entry "colour" "is" (.text "red") [(.text "connector", .text "OR")], .null,
        entry "size" "is" (.text "small") [], entry "size" "is" (.int 42) [],
        entry "colour" "not" (.text "red") [],
        entry "colour" "is" (.bool true) [(.text "connector", .text "OR")]]
    let keys : List String := ["colour"]
    ∃ r picked omitted, s.restoreFilter (.list data) = .ok r ∧
      (s.pick keys).restoreFilter (.list data) = .ok picked ∧
      (s.omitting keys).restoreFilter (.list data) = .ok omitted ∧
      s.RestoresKept {} (fun key => keys.contains key) data r picked ∧
      s.RestoresKept {} (fun key => !keys.contains key) data r omitted ∧
      r.errors.map (·.index) = [some 1, some 2, some 4] ∧
      r.expressions.map (·.connector) = [some "OR", some "AND", none] ∧
      picked.errors.map (·.index) = [some 1, some 2, some 3, some 4] ∧
      picked.expressions.map (·.connector) = [some "OR", none] ∧
      omitted.errors.map (·.index) = [some 0, some 1, some 2, some 4, some 5] ∧
      omitted.expressions.map (·.connector) = [none] := by
  intro s entry data keys
  have h : s.restoreFilter (.list data) = .ok _ := rfl
  obtain ⟨picked, omitted, hpicked, homitted, hkept, hothers⟩ :=
    restoreFilter_picked_or_omitted rfl h keys
  cases hpicked
  cases homitted
  exact ⟨_, _, _, h, rfl, rfl, hkept, hothers, rfl, rfl, rfl, rfl, rfl, rfl⟩

end

end Criteria
