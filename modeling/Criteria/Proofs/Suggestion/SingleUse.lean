import Criteria.Proofs.Machine.Runs
import Criteria.Proofs.Schema.Usable
import Criteria.Proofs.Suggestion.Offers
import Criteria.Proofs.Validation.Repeats

/-!
# Disabled fields

A single-use field that a filter uses is still offered, but disabled. The check of a filter comes to
the same rule from the other side: it counts the places at which a field is used. Where field keys
differ, a field is disabled exactly if the check would object to one more use of it
(`Item.Foretells`), as long as the check can word what it finds.
-/

namespace Criteria

/-- What the item of a field says is what the check of a filter with one more use of it says. -/
structure Item.Foretells (item : Item) (s : Schema) (f : Field) (es : Filter) : Prop where
  reuse : ∀ r, s.validate es = .ok r → (item.disabled = true ↔
    ∃ p ∈ r.errors, p.field = some f.key ∧ ∃ g ∈ s.fields, p ∈ Schema.singleUseErrors es g)
  unhooked : s.Unhooked → ∀ r, s.validate es = .ok r → (item.disabled = true ↔
    ∃ p ∈ r.errors, p.field = some f.key ∧ p.kind = .field)
  answers : Answers (s.validate es) ↔ s.Reports es

variable {s : Schema} {f : Field} {es : Filter} {e : Expression} {p : Problem} {r : Report}

-- ---------------------------------------------------------------------------
-- Uses of a field
-- ---------------------------------------------------------------------------

theorem Filter.uses_extended (hkey : e.field.key = key) (c : Option Connector) :
    Filter.uses (es.withLast c ++ [e]) key = es.uses key + 1 := by
  have happend : Filter.uses (es.withLast c ++ [e]) key =
      Filter.uses (es.withLast c) key + Filter.uses [e] key := List.countP_append
  rw [happend, Filter.uses_withLast, Schema.uses_cons, if_pos hkey]
  rfl

namespace Schema

theorem disables_iff : (!f.allowMultiple && es.any (·.field.key == f.key)) = true ↔
    f.allowMultiple = false ∧ 1 ≤ es.uses f.key := by
  have hused : es.any (·.field.key == f.key) = true ↔ 1 ≤ es.uses f.key := by
    rw [Filter.uses, Nat.one_le_iff_ne_zero, ← Nat.pos_iff_ne_zero, List.countP_pos_iff,
      List.any_eq_true]
  rw [← hused, Bool.and_eq_true, Bool.not_eq_true']

-- ---------------------------------------------------------------------------
-- Problems with a field
-- ---------------------------------------------------------------------------

theorem singleUseErrors_names (hp : p ∈ singleUseErrors es f) :
    p.kind = .field ∧ p.field = some f.key := by
  unfold singleUseErrors at hp
  split at hp
  · obtain rfl := List.mem_singleton.mp hp
    exact ⟨rfl, rfl⟩
  · cases hp

theorem singleUseErrors_reported (h : s.validate es = .ok r) (hf : f ∈ s.fields)
    (hp : p ∈ singleUseErrors es f) : p ∈ r.errors := by
  obtain ⟨limit, each, -, -, rfl⟩ := validate_ok_iff.mp h
  refine List.mem_append_left _ (List.mem_append_right _ ?_)
  exact List.mem_flatMap.mpr ⟨f, hf, hp⟩

theorem exists_singleUseErrors_iff : (∃ p, p ∈ singleUseErrors es f) ↔
    f.allowMultiple = false ∧ 2 ≤ es.uses f.key := by
  have hsome : (∃ p, p ∈ singleUseErrors es f) ↔ singleUseErrors es f ≠ [] :=
    ⟨fun ⟨_, hp⟩ => List.ne_nil_of_mem hp, List.exists_mem_of_ne_nil _⟩
  rw [hsome, ne_eq, singleUseErrors_eq_nil_iff, not_or, Bool.not_eq_true, Nat.not_le]
  rfl

theorem limitErrors_kind (h : s.limitErrors es = .ok limit) (hp : p ∈ limit) :
    p.kind = .schema := by
  unfold limitErrors at h
  split at h
  · split at h
    · obtain ⟨shown, -, h⟩ := bind_ok.mp h
      obtain rfl := pure_ok.mp h
      obtain rfl := List.mem_singleton.mp hp
      rfl
    · cases h
      cases hp
  · cases h
    cases hp

theorem connectorErrors_kind (hp : p ∈ connectorErrors i e isLast) : p.kind = .expression := by
  unfold connectorErrors at hp
  split at hp
  · obtain rfl := List.mem_singleton.mp hp
    rfl
  · obtain rfl := List.mem_singleton.mp hp
    rfl
  · cases hp

theorem field_problem_of_validateExpression (hs : s.Unhooked)
    (h : s.validateExpression e index context = .ok r) (hp : p ∈ r.errors) (hk : p.kind = .field) :
    p.field = some e.field.key ∧ ∀ f ∈ s.fields, f.key ≠ e.field.key := by
  have hverdict : s.Verdict e index context (.ok r) := h ▸ verdict_validateExpression
  cases hverdict with
  | unknownField hf =>
    obtain rfl := List.mem_singleton.mp hp
    exact ⟨rfl, hf⟩
  | unknownOperator | value =>
    obtain rfl := List.mem_singleton.mp hp
    cases hk
  | hooks hf ho =>
    rw [← hookReport_eq, hookReport_of_unhooked hs hf ho] at hp
    cases hp

theorem singleUse_of_field_problem (hs : s.Unhooked) (h : s.validate es = .ok r)
    (hp : p ∈ r.errors) (hk : p.kind = .field) (hf : f ∈ s.fields) (hname : p.field = some f.key) :
    ∃ g ∈ s.fields, p ∈ singleUseErrors es g := by
  have ha := accounts_of_validate h
  obtain ⟨limit, hlimit, hparts⟩ := ha.parts
  rw [hparts, List.mem_append, List.mem_append, List.mem_append] at hp
  rcases hp with ((hp | hp) | hp) | hp
  · cases hk.symm.trans (limitErrors_kind hlimit hp)
  · obtain ⟨⟨e, i⟩, hei, hp⟩ := List.mem_flatMap.mp hp
    have he := List.mem_zipIdx_iff_getElem?.mp hei
    rcases List.mem_append.mp hp with hp | hp
    · obtain ⟨hown, hunknown⟩ := field_problem_of_validateExpression hs (ha.own i e he) hp hk
      exact absurd (Option.some.inj (hname.symm.trans hown)) (hunknown f hf)
    · cases hk.symm.trans (connectorErrors_kind hp)
  · exact List.mem_flatMap.mp hp
  · rw [wholeReport, hs.schema] at hp
    cases hp

theorem reuse_iff (hn : s.fieldKeys.Nodup) (hf : f ∈ s.fields) (hkey : e.field.key = f.key)
    (c : Option Connector) :
    (∃ g ∈ s.fields, g.key = f.key ∧ ∃ p, p ∈ singleUseErrors (es.withLast c ++ [e]) g) ↔
      f.allowMultiple = false ∧ 1 ≤ es.uses f.key := by
  simp only [exists_singleUseErrors_iff]
  constructor
  · rintro ⟨g, hg, hsame, hmultiple, huses⟩
    obtain rfl : g = f := List.inj_on_of_nodup_map hn hg hf hsame
    rw [Filter.uses_extended hkey] at huses
    exact ⟨hmultiple, Nat.le_of_succ_le_succ huses⟩
  · rintro ⟨hmultiple, huses⟩
    refine ⟨f, hf, rfl, hmultiple, ?_⟩
    rw [Filter.uses_extended hkey]
    exact Nat.succ_le_succ huses

end Schema

theorem Item.foretells_extended {item : Item} (hn : s.fieldKeys.Nodup) (hf : f ∈ s.fields)
    (hd : item.disabled = true ↔ f.allowMultiple = false ∧ 1 ≤ es.uses f.key)
    (hkey : e.field.key = f.key) (c : Option Connector) :
    item.Foretells s f (es.withLast c ++ [e]) := by
  have hreuse (r : Report) (h : s.validate (es.withLast c ++ [e]) = .ok r) :
      item.disabled = true ↔ ∃ p ∈ r.errors, p.field = some f.key ∧
        ∃ g ∈ s.fields, p ∈ Schema.singleUseErrors (es.withLast c ++ [e]) g := by
    rw [hd, ← Schema.reuse_iff hn hf hkey c]
    constructor
    · rintro ⟨g, hg, hsame, p, hp⟩
      refine ⟨p, Schema.singleUseErrors_reported h hg hp, ?_, g, hg, hp⟩
      rw [(Schema.singleUseErrors_names hp).2, hsame]
    · rintro ⟨p, -, hname, g, hg, hp⟩
      have hsame := (Schema.singleUseErrors_names hp).2.symm.trans hname
      exact ⟨g, hg, Option.some.inj hsame, p, hp⟩
  refine ⟨hreuse, fun hs r h => ?_, ?_⟩
  · rw [hreuse r h]
    refine exists_congr fun p => and_congr_right fun hp => and_congr_right fun hname => ?_
    constructor
    · rintro ⟨g, -, hp⟩
      exact (Schema.singleUseErrors_names hp).1
    · exact fun hk => Schema.singleUse_of_field_problem hs h hp hk hf hname
  · rw [Schema.answers_validate]
    exact ⟨fun ⟨hlimit, hvalues⟩ => ⟨hlimit, hvalues⟩, fun ⟨hlimit, hvalues⟩ => ⟨hlimit, hvalues⟩⟩

/-- While a field is to be chosen, each field is offered, and one is disabled exactly if the check of
the filter with one more use of it would object to this use. -/
theorem State.suggest_foretells (hn : s.fieldKeys.Nodup) (es : Filter)
    (pending : Option Connector) :
    ∃ items, (selectingField es pending).suggest s "" = .ok items ∧
      List.Forall₂ (fun f item => f.ShownAs item ∧
        ∀ (c : Option Connector) (e : Expression), e.field.key = f.key →
          item.Foretells s f (es.withLast c ++ [e])) s.fields items := by
  refine ⟨_, rfl, List.forall₂_map_right_iff.mpr (List.forall₂_same.mpr fun f hf => ?_)⟩
  exact ⟨⟨rfl, rfl, rfl, rfl, rfl⟩,
    fun c e hkey => Item.foretells_extended hn hf Schema.disables_iff hkey c⟩

/-- One more use of the status is objected to, one more of the colour is not. -/
theorem State.suggest_foretells_status :
    let is : Operator := { key := "is", label := "is" }
    let s : Schema :=
      { fields :=
          [{ key := "status", label := "Status", allowMultiple := false, operators := [is] },
            { key := "colour", label := "Colour", operators := [is] }] }
    let es : Filter := [.plain "status" "is" "open" "AND", .plain "colour" "is" "red" "OR"]
    let again (key : String) : Filter := es.withLast (some "AND") ++ [.plain key "is" "new"]
    s.fieldKeys.Nodup ∧ s.Unhooked ∧
      ∃ items, (selectingField es (some "OR")).suggest s "" = .ok items ∧
        items.map (fun item => (item.key, item.disabled)) =
          [(.text "status", true), (.text "colour", false)] ∧
        (∃ r, s.validate (again "status") = .ok r ∧
          ∃ p ∈ r.errors, p.field = some "status" ∧ p.kind = .field) ∧
        ∃ r, s.validate (again "colour") = .ok r ∧
          ¬ ∃ p ∈ r.errors, p.field = some "colour" ∧ p.kind = .field := by
  intro is s es again
  have hn : s.fieldKeys.Nodup := by decide
  have hs : s.Unhooked := ⟨rfl, by simp [s], by simp [s, is]⟩
  obtain ⟨items, hitems, hall⟩ := suggest_foretells hn es (some "OR")
  obtain ⟨status, others, ⟨-, hstatus⟩, hothers, rfl⟩ := List.forall₂_cons_left_iff.mp hall
  obtain ⟨colour, beyond, ⟨-, hcolour⟩, hbeyond, rfl⟩ := List.forall₂_cons_left_iff.mp hothers
  obtain rfl := List.forall₂_nil_left_iff.mp hbeyond
  cases hitems
  have hagain : s.validate (again "status") = .ok _ := rfl
  have hother : s.validate (again "colour") = .ok _ := rfl
  refine ⟨hn, hs, _, rfl, rfl, ⟨_, hagain, ?_⟩, _, hother, fun hp => ?_⟩
  · exact ((hstatus (some "AND") _ rfl).unhooked hs _ hagain).mp rfl
  · exact nomatch ((hcolour (some "AND") _ rfl).unhooked hs _ hother).mpr hp

-- ---------------------------------------------------------------------------
-- Where the check does not get so far
-- ---------------------------------------------------------------------------

namespace Schema

/-- A field is disabled while the check of one more use of it ends without a report, because the number
of values that another expression should have is too long to be written. -/
theorem validate_stops_before_reuse :
    let count : Int := (10 ^ Numeral.digitLimit : Nat)
    let op : Operator :=
      { key := "in", label := "in", multiValue := some { count := .number count } }
    let is : Operator := { key := "is", label := "is" }
    let tags : Field := { key := "tags", label := "Tags", operators := [op] }
    let status : Field :=
      { key := "status", label := "Status", allowMultiple := false, operators := [is] }
    let s : Schema := { fields := [tags, status] }
    let es : Filter :=
      [⟨⟨tags.ref, op.ref, ⟨.list [.text "red"], "red", "red"⟩⟩, some "AND"⟩,
        .plain "status" "is" "open" "AND"]
    let again : Expression := .plain "status" "is" "closed"
    s.fieldKeys.Nodup ∧ s.Unhooked ∧
      (∃ items, (State.selectingField es (some "AND")).suggest s "" = .ok items ∧
        items.map (fun item => (item.key, item.disabled)) =
          [(.text "tags", false), (.text "status", true)]) ∧
      s.validate (es.withLast (some "AND") ++ [again]) = .error .digitLimit := by
  intro count op is tags status s es again
  have hmany : 1 < count := Numeral.one_lt_pow_digitLimit
  have hlong : (Data.int count).Unwritable := Data.unwritable_pow
  -- The number itself is never computed.
  clear_value count
  have hn : s.fieldKeys.Nodup := by simp [s, tags, status, fieldKeys]
  have hs : s.Unhooked := ⟨rfl, by simp [s, tags, status], by simp [s, tags, status, op, is]⟩
  refine ⟨hn, hs, ⟨_, rfl, rfl⟩, validate_error_of_first rfl ?_⟩
  exact cannotReport_of_long_count rfl rfl rfl rfl hmany hlong rfl

end Schema

end Criteria
