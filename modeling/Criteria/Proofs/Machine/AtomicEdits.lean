import Criteria.Proofs.Machine.Legality
import Criteria.Proofs.Machine.Loading
import Criteria.Proofs.Validation.Findings

/-!
# Edits are atomic

An edit is made as a whole or not at all. It can be told beforehand which (`Edit.apply_done_iff`):
there has to be an expression at the index, a connector is only exchanged for a known one, and
what becomes of a condition has to pass the check of the schema. An edit that is made changes one
part of that expression, or removes it, and what is around it stays. One that is refused changes
nothing.
-/

namespace Criteria

namespace Filter

structure SameBut (i : Nat) (es fs : Filter) : Prop where
  length : fs.length = es.length
  others : ∀ j, j ≠ i → fs[j]? = es[j]?

/-- A filter with one expression removed, and `trailing` as the connector at the end of the
others. -/
structure Without (i : Nat) (trailing : Option Connector) (es fs : Filter) : Prop where
  conditions : fs.map (·.condition) = (es.eraseIdx i).map (·.condition)
  inner : ∀ j, j + 1 < fs.length → fs[j]? = (es.eraseIdx i)[j]?
  last : fs ≠ [] → fs.lastConnector? = trailing

variable {es : Filter} {e : Expression} {i : Nat}

theorem sameBut_set (es : Filter) (i : Nat) (e : Expression) : SameBut i es (es.set i e) where
  length := List.length_set
  others _ hj := List.getElem?_set_ne hj.symm

theorem getElem?_withLast_inner (h : i + 1 < es.length) : (es.withLast c)[i]? = es[i]? := by
  obtain ⟨front, last, rfl⟩ := (eq_nil_or_append es).resolve_left (by rintro rfl; simp at h)
  have hi : i < front.length := by simpa using h
  rw [withLast_concat, List.getElem?_append_left hi, List.getElem?_append_left hi]

theorem without_withLast (es : Filter) (i : Nat) (c : Option Connector) :
    Without i c es (Filter.withLast c (es.eraseIdx i)) where
  conditions := map_condition_withLast
  inner j hj := getElem?_withLast_inner (by simpa using hj)
  last hne := State.lastConnector?_withLast (fun h => hne (by rw [h]; rfl)) c

end Filter

namespace Edit

/-- What an edit makes of the expression that it aims at, unless it removes it. -/
inductive Turns : Edit → Expression → Expression → Prop
  | value : Turns (.value v) e { e with condition := ⟨e.field, e.operator, v⟩ }
  | operator : Turns (.operator o) e { e with condition := ⟨e.field, o, e.value⟩ }
  | field : Turns (.field f o v) e { e with condition := ⟨f, o, v⟩ }
  | connector (hn : e.connector ≠ none) (hc : c ∈ Connector.all) :
      Turns (.connector (.text c)) e (e.withConnector (some c))

def isChecked : Edit → Bool
  | value _ | operator _ | field .. => true
  | connector _ | delete => false

def Passes (edit : Edit) (schema : Option Schema) (fs : Filter) (i : Nat) (e : Expression) : Prop :=
  edit.isChecked = true → ∀ s, schema = some s → s.Passes fs i e

section
variable {edit : Edit} {es fs : Filter} {e e' : Expression} {index : Int} {i : Nat}
  {schema : Option Schema} {trailing : Option Connector} {r : EditResult} {d : Data}

-- ---------------------------------------------------------------------------
-- Edits that are made
-- ---------------------------------------------------------------------------

theorem done_inj : done es = done fs ↔ es = fs :=
  ⟨congrArg EditResult.expressions, congrArg done⟩

theorem failed_ne_done (es fs : Filter) (problems : List Problem) : failed es problems ≠ done fs :=
  fun h => nomatch congrArg EditResult.success h

theorem replaceAt_done_iff : replaceAt es i e schema = .ok (done fs) ↔
    fs = es.set i e ∧ ∀ s, schema = some s → s.Passes (es.set i e) i e := by
  cases schema with
  | none =>
    constructor
    · intro h
      exact ⟨(done_inj.mp (pure_ok.mp h)).symm, nofun⟩
    · rintro ⟨rfl, -⟩
      rfl
  | some s =>
    simp only [replaceAt, Option.some.injEq, forall_eq']
    constructor
    · intro h
      obtain ⟨report, hr, h⟩ := bind_ok.mp h
      split at h
      next hv => exact ⟨(done_inj.mp (pure_ok.mp h)).symm, report, hr, hv⟩
      next =>
        obtain ⟨note, -, h⟩ := bind_ok.mp h
        exact absurd (pure_ok.mp h) (failed_ne_done _ _ _)
    · rintro ⟨rfl, report, hr, hv⟩
      exact bind_ok.mpr ⟨report, hr, by rw [if_pos hv]; rfl⟩

theorem connectAt_done_iff : connectAt es i e d = .ok (done fs) ↔
    ∃ e', (connector d).Turns e e' ∧ fs = es.set i e' := by
  constructor
  · intro h
    rcases connectAt_ok h with ⟨c, hd, hn, hdone⟩ | ⟨problems, -, hfailed⟩
    · obtain ⟨c', hmem, rfl⟩ := Connector.ofData?_ne_none_iff.mp (by rw [hd]; simp)
      obtain rfl : c' = c := Option.some.inj ((Connector.ofData?_text hmem).symm.trans hd)
      exact ⟨_, .connector hn hmem, done_inj.mp hdone⟩
    · exact absurd hfailed.symm (failed_ne_done _ _ _)
  · rintro ⟨e', ht, rfl⟩
    cases ht with
    | connector hn hmem =>
      obtain ⟨c, hc⟩ := Option.ne_none_iff_exists'.mp hn
      simp only [connectAt, Connector.ofData?_text hmem, hc]

theorem turns_of_condition? (h : edit.condition? e.condition = some c) :
    edit.isChecked = true ∧ edit.Turns e { e with condition := c } := by
  cases edit with
  | value => cases h; exact ⟨rfl, .value⟩
  | operator => cases h; exact ⟨rfl, .operator⟩
  | field => cases h; exact ⟨rfl, .field⟩
  | connector | delete => cases h

theorem apply_done_iff : edit.apply es index schema trailing = .ok (done fs) ↔
    ∃ (i : Nat) (e : Expression), index = i ∧ es[i]? = some e ∧
      (edit = .delete ∧ fs = Filter.withLast trailing (es.eraseIdx i) ∨
        ∃ e', edit.Turns e e' ∧ fs = es.set i e' ∧ edit.Passes schema fs i e') := by
  constructor
  · intro h
    rcases apply_cases edit es index schema trailing with
      ⟨-, ha⟩ | ⟨i, e, rfl, he, ⟨d, rfl, ha⟩ | ⟨rfl, ha⟩ | ⟨c, hc, ha⟩⟩ <;> rw [ha] at h
    · obtain ⟨problems, -, hfailed⟩ := outside_ok h
      exact absurd hfailed.symm (failed_ne_done _ _ _)
    · obtain ⟨e', ht, rfl⟩ := connectAt_done_iff.mp h
      exact ⟨i, e, rfl, he, .inr ⟨e', ht, rfl, nofun⟩⟩
    · exact ⟨i, e, rfl, he, .inl ⟨rfl, (done_inj.mp (Except.ok.inj h)).symm⟩⟩
    · obtain ⟨rfl, hp⟩ := replaceAt_done_iff.mp h
      exact ⟨i, e, rfl, he, .inr ⟨_, (turns_of_condition? hc).2, rfl, fun _ => hp⟩⟩
  · rintro ⟨i, e, rfl, he, ⟨rfl, rfl⟩ | ⟨e', ht, rfl, hp⟩⟩
    · exact apply_delete he
    · cases ht with
      | connector hn hmem =>
        exact (apply_connector he).trans (connectAt_done_iff.mpr ⟨_, .connector hn hmem, rfl⟩)
      | value | operator | field =>
        exact (apply_condition he rfl).trans (replaceAt_done_iff.mpr ⟨rfl, hp rfl⟩)

theorem eq_done_of_success (h : edit.apply es index schema trailing = .ok r)
    (hr : r.success = true) : r = done r.expressions := by
  rcases apply_ok h with ⟨i, fs, -, -, rfl⟩ | ⟨problems, -, rfl⟩
  · rfl
  · cases hr

theorem refused_of_not_success (h : edit.apply es index schema trailing = .ok r)
    (hr : r.success = false) : r.errors ≠ [] ∧ r.expressions = es := by
  rcases apply_ok h with ⟨i, fs, -, -, rfl⟩ | ⟨problems, hne, rfl⟩
  · cases hr
  · exact ⟨hne, rfl⟩

end

end Edit

namespace State

structure Revised (s : State) (edit : Edit) (i : Nat) (schema : Option Schema) (s' : State) :
    Prop where
  step : s'.step = s.step
  field : s'.field? = s.field?
  operator : s'.operator? = s.operator?
  pending : s'.pending? = if s.step.isBuilding then s'.expressions.lastConnector? else none
  turned : edit ≠ .delete → ∃ e e', s.expressions[i]? = some e ∧ edit.Turns e e' ∧
    s'.expressions[i]? = some e' ∧ s.expressions.SameBut i s'.expressions ∧
      edit.Passes schema s'.expressions i e'
  removed : edit = .delete → i < s.expressions.length ∧
    s.expressions.Without i (if s.step.isBuilding then s.pending? else none) s'.expressions

section
variable {s s' : State} {edit : Edit} {es fs : Filter} {index : Int} {schema : Option Schema}
  {r : EditResult} {failure : Failure}

-- ---------------------------------------------------------------------------
-- Edits of a state
-- ---------------------------------------------------------------------------

theorem pending?_while_building (s : State) :
    (if s.step.isBuilding then s.pending? else none) = s.pending? := by
  cases s <;> rfl

theorem edit_ok_iff (hs : s.WellFormed) : s.edit edit index schema = (.ok r, s') ↔
    edit.apply s.expressions index schema s.pending? = .ok r ∧
      s' = if r.success then s.withExpressions r.expressions else s := by
  cases ha : edit.apply s.expressions index schema s.pending? with
  | error f => simp [edit_of_apply_error ha]
  | ok r' =>
    rw [edit_of_apply_ok hs ha]
    constructor
    · rintro ⟨⟩
      exact ⟨rfl, rfl⟩
    · rintro ⟨⟨⟩, rfl⟩
      rfl

theorem edit_error_iff (hs : s.WellFormed) : s.edit edit index schema = (.error failure, s') ↔
    failure = .fault .digitLimit ∧ edit.CannotReport s.expressions index schema ∧ s' = s := by
  constructor
  · intro h
    rcases edit_cases hs edit index schema with ⟨r, t, he, -⟩ | ⟨hc, he⟩
    · cases he.symm.trans h
    · cases he.symm.trans h
      exact ⟨rfl, hc, rfl⟩
  · rintro ⟨rfl, hc, rfl⟩
    exact edit_of_apply_error (Edit.apply_error_iff.mpr ⟨rfl, hc⟩)

theorem revised_of_done
    (h : edit.apply s.expressions index schema s.pending? = .ok (Edit.done fs)) :
    ∃ i : Nat, index = i ∧ s.Revised edit i schema (s.withExpressions fs) := by
  obtain ⟨i, e, rfl, he, hmade⟩ := Edit.apply_done_iff.mp h
  have hi : i < s.expressions.length := (List.getElem?_eq_some_iff.mp he).1
  refine ⟨i, rfl, by simp, by simp, by simp, ?pending, fun hne => ?turned, ?removed⟩
  case pending =>
    rw [withExpressions_pending?, withExpressions_expressions]
  case turned =>
    obtain ⟨e', ht, rfl, hp⟩ := hmade.resolve_left fun hd => hne hd.1
    rw [withExpressions_expressions]
    exact ⟨e, e', he, ht, List.getElem?_set_self hi, Filter.sameBut_set .., hp⟩
  case removed =>
    rintro rfl
    obtain ⟨-, rfl⟩ := hmade.resolve_right fun ⟨_, ht, _⟩ => nomatch ht
    rw [withExpressions_expressions, pending?_while_building]
    exact ⟨hi, Filter.without_withLast ..⟩

/-- Wherever a machine got to, an edit is made as a whole, or it is refused for reasons that it
gives and changes nothing. It gets no answer only if a reason would quote a number with more
digits than are ever written, and then it changes nothing either. -/
theorem edits_are_atomic (hs : s.Reachable) (edit : Edit) (index : Int)
    (schema : Option Schema) :
    (∀ r s', s.edit edit index schema = (.ok r, s') →
      (r.success = false ∧ r.errors ≠ [] ∧ s' = s ∧ r.expressions = s.expressions) ∨
        r.success = true ∧ s'.expressions = r.expressions ∧
          ∃ i : Nat, index = i ∧ s.Revised edit i schema s') ∧
    (index < 0 ∨ s.expressions.length ≤ index → ¬ (Data.int index).Unwritable →
      ∃ r, s.edit edit index schema = (.ok r, s) ∧ r.success = false) ∧
    ((∃ r s', s.edit edit index schema = (.ok r, s') ∧ r.success = true) ↔
      ∃ (i : Nat) (e : Expression), index = i ∧ s.expressions[i]? = some e ∧
        (edit = .delete ∨ ∃ e', edit.Turns e e' ∧
          edit.Passes schema (s.expressions.set i e') i e')) ∧
    ∀ failure s', s.edit edit index schema = (.error failure, s') ↔
      failure = .fault .digitLimit ∧ edit.CannotReport s.expressions index schema ∧ s' = s := by
  have hw : s.WellFormed := hs.wellFormed
  refine ⟨fun r s' h => ?answered, fun hindex hwritable => ?outside, ?made,
    fun _ _ => edit_error_iff hw⟩
  case answered =>
    obtain ⟨ha, rfl⟩ := (edit_ok_iff hw).mp h
    cases hr : r.success with
    | false =>
      obtain ⟨hne, he⟩ := Edit.refused_of_not_success ha hr
      exact .inl ⟨rfl, hne, rfl, he⟩
    | true =>
      rw [Edit.eq_done_of_success ha hr] at ha
      exact .inr ⟨rfl, withExpressions_expressions, revised_of_done ha⟩
  case outside =>
    obtain ⟨r, hr⟩ : ∃ r, Edit.outside s.expressions index = .ok r := by
      rcases answers_or_error (Edit.outside s.expressions index) with ha | ⟨f, hf⟩
      · exact ha
      · exact absurd (Edit.outside_error_iff.mp hf).2 hwritable
    obtain ⟨problems, -, rfl⟩ := Edit.outside_ok hr
    exact ⟨_, (edit_ok_iff hw).mpr ⟨(Edit.apply_outside hindex).trans hr, rfl⟩, rfl⟩
  case made =>
    constructor
    · rintro ⟨r, s', h, hr⟩
      have ha := ((edit_ok_iff hw).mp h).1
      rw [Edit.eq_done_of_success ha hr] at ha
      obtain ⟨i, e, hi, he, hmade⟩ := Edit.apply_done_iff.mp ha
      refine ⟨i, e, hi, he, hmade.imp And.left ?_⟩
      rintro ⟨e', ht, hfs, hp⟩
      exact ⟨e', ht, hfs ▸ hp⟩
    · rintro ⟨i, e, hi, he, hmade⟩
      have hdone : ∃ fs, edit.apply s.expressions index schema s.pending? = .ok (Edit.done fs) := by
        rcases hmade with hd | ⟨e', ht, hp⟩
        · exact ⟨_, Edit.apply_done_iff.mpr ⟨i, e, hi, he, .inl ⟨hd, rfl⟩⟩⟩
        · exact ⟨_, Edit.apply_done_iff.mpr ⟨i, e, hi, he, .inr ⟨e', ht, rfl, hp⟩⟩⟩
      obtain ⟨fs, ha⟩ := hdone
      exact ⟨_, _, (edit_ok_iff hw).mpr ⟨ha, rfl⟩, rfl⟩

end

/-- The last expression removed where its connector is the pending one, and a connector that is
none. -/
theorem edits_are_atomic_building :
    let size : FieldRef := { key := "size", label := "Size" }
    let s : State := selectingOperator
      [.plain "colour" "is" "red" "OR", .plain "size" "is" "small" "AND"] (some "AND") (some size)
    let s' : State := selectingOperator [.plain "colour" "is" "red" "AND"] (some "AND") (some size)
    s.Reachable ∧ s.Revised .delete 1 none s' ∧
      ∃ r, s.edit (.connector (.text "XOR")) 0 none = (.ok r, s) ∧ r.errors ≠ [] := by
  intro size s s'
  have hs : s.Reachable :=
    ⟨[.plain "colour" "is" "red" "OR", .plain "size" "is" "small"], _,
      [.transition .focus, .transition (.selectField size)], rfl, rfl⟩
  have hdelete : s.edit .delete 1 none = (.ok _, s') := rfl
  have hconnect : s.edit (.connector (.text "XOR")) 0 none = (.ok _, s) := rfl
  obtain ⟨hfailed, -⟩ | ⟨-, -, i, hi, hrevised⟩ :=
    (edits_are_atomic hs .delete 1 none).1 _ _ hdelete
  · cases hfailed
  · obtain rfl : i = 1 := Int.ofNat.inj hi.symm
    obtain ⟨-, hne, -⟩ | ⟨hmade, -⟩ :=
      (edits_are_atomic hs (.connector (.text "XOR")) 0 none).1 _ _ hconnect
    · exact ⟨hs, hrevised, _, hconnect, hne⟩
    · cases hmade

/-- An edit gets no answer where the index is too long to be written, or where the range that it asks
for is inverted and one of its ends is. -/
theorem edits_stop_at_long_numbers :
    let n : Int := (10 ^ Numeral.digitLimit : Nat)
    let op : Operator :=
      { key := "between", label := "between", multiValue := some { count := .number 2 } }
    let age : Field := { key := "age", label := "Age", type := "number", operators := [op] }
    let schema : Schema := { fields := [age] }
    let s : State := idle [⟨⟨age.ref, op.ref, ⟨.list [.int 1, .int 2], "[1, 2]", "[1, 2]"⟩⟩, none⟩]
    s.Reachable ∧ s.expressions.length ≤ n ∧
      s.edit .delete n none = (.error (.fault .digitLimit), s) ∧
      s.edit (.value ⟨.list [.int n, .int 0], "", ""⟩) 0 (some schema) =
        (.error (.fault .digitLimit), s) := by
  intro n op age schema s
  have hmany : 1 < n := Numeral.one_lt_pow_digitLimit
  have hlong : (Data.int n).Unwritable := Data.unwritable_pow
  -- The number itself is never computed.
  clear_value n
  have hs : s.Reachable := ⟨s.expressions, s, [], rfl, rfl⟩
  have houtside : s.expressions.length ≤ n := Int.le_of_lt hmany
  have hrange : Edit.CannotReport (.value ⟨.list [.int n, .int 0], "", ""⟩) s.expressions (0 : Nat)
      (some schema) :=
    Edit.cannotReport_of_long_range rfl rfl rfl rfl rfl rfl (Int.lt_trans (by decide) hmany) hlong
  refine ⟨hs, houtside, ?_, ?_⟩
  · exact edit_of_apply_error (Edit.apply_error_iff.mpr ⟨rfl, .outside (.inr houtside) hlong⟩)
  · exact edit_of_apply_error (Edit.apply_error_iff.mpr ⟨rfl, hrange⟩)

end State

end Criteria
