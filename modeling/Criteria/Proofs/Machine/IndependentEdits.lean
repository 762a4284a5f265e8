import Criteria.Proofs.Machine.AtomicEdits

/-!
# Independent edits

An edit of one expression reads that expression and writes it. What stands around it counts for
nothing, as long as no hook is shown the whole filter (`Edit.exists_verdict`). So the order of two
edits at different places does not matter, not even where one of them changes the pending
connector. Two removals can change places as well; the later expression has moved up by one when
the earlier one is removed first.
-/

namespace Criteria

-- ---------------------------------------------------------------------------
-- Two expressions removed
-- ---------------------------------------------------------------------------

theorem Filter.eraseIdx_eraseIdx {i j : Nat} (es : Filter) (h : i ≤ j) :
    (es.eraseIdx i).eraseIdx j = (es.eraseIdx (j + 1)).eraseIdx i := by
  induction es generalizing i j with
  | nil => rfl
  | cons e es ih =>
    cases i with
    | zero => rfl
    | succ i =>
      obtain ⟨j, rfl⟩ : ∃ k, j = k + 1 := ⟨j - 1, by omega⟩
      simpa using ih (by omega)

theorem Filter.withLast_eraseIdx_withLast (es : Filter) (i : Nat) (c : Option Connector) :
    Filter.withLast c ((es.withLast c).eraseIdx i) = Filter.withLast c (es.eraseIdx i) := by
  rcases eq_nil_or_append es with rfl | ⟨front, last, rfl⟩
  · rfl
  · rw [withLast_concat, List.eraseIdx_append, List.eraseIdx_append]
    split
    next => rw [withLast_concat, withLast_concat, Expression.withConnector_withConnector]
    next =>
      -- Either the last expression goes and its connector with it, or none goes.
      cases i - front.length with
      | zero => rfl
      | succ n => simp [Expression.withConnector_withConnector]

namespace Schema

variable {s : Schema} {e : Expression} {index : Option Int}

theorem validateExpression_context (hs : s.Unhooked) (es fs : Filter) :
    s.validateExpression e index es = s.validateExpression e index fs := by
  simp only [validateExpression]
  split
  next => rfl
  next field hf =>
    split
    next => rfl
    next op ho => rw [hookReport_of_unhooked hs hf ho, hookReport_of_unhooked hs hf ho]

end Schema

-- ---------------------------------------------------------------------------
-- What an edit comes to
-- ---------------------------------------------------------------------------

/-- What an edit of one expression comes to, whatever stands around that expression. -/
inductive Verdict where
  | made (i : Nat) (e : Expression)
  | refused (problems : List Problem)
  | fault (fault : Fault)

namespace Verdict

def on (es : Filter) : Verdict → Except Fault EditResult
  | made i e => .ok (Edit.done (es.set i e))
  | refused problems => .ok (Edit.failed es problems)
  | fault f => .error f

def answer : Verdict → Except State.Failure (Bool × List Problem)
  | made .. => .ok (true, [])
  | refused problems => .ok (false, problems)
  | fault f => .error (.fault f)

def after (s : State) : Verdict → State
  | made i e => s.withExpressions (s.expressions.set i e)
  | refused _ | fault _ => s

def Within (index : Int) : Verdict → Prop
  | made i _ => index = i
  | refused _ | fault _ => True

end Verdict

namespace Edit

variable {edit : Edit} {es : Filter} {e : Expression} {index : Int} {i : Nat}
  {schema : Option Schema}

theorem exists_verdict_outside (es : Filter) (index : Int) :
    ∃ v : Verdict, v.Within index ∧
      ∀ fs : Filter, fs.length = es.length → outside fs index = v.on fs := by
  cases hi : wholeText index with
  | error f =>
    exact ⟨.fault f, trivial, fun fs _ => by simp only [outside, hi]; rfl⟩
  | ok shown =>
    refine ⟨.refused [problem index
      s!"No expression at index {shown} ({es.length} expression(s) committed)"], trivial,
      fun fs hlength => ?_⟩
    simp only [outside, hi, ← hlength]
    rfl

theorem exists_verdict_connectAt (i : Nat) (e : Expression) (d : Data) :
    ∃ v : Verdict, v.Within i ∧ ∀ fs, connectAt fs i e d = v.on fs := by
  cases hd : Connector.ofData? d with
  | none =>
    cases ht : d.shown with
    | error f => exact ⟨.fault f, trivial, fun fs => by simp only [connectAt, hd, ht]; rfl⟩
    | ok text => exact ⟨.refused _, trivial, fun fs => by simp only [connectAt, hd, ht]; rfl⟩
  | some c =>
    cases hc : e.connector with
    | none => exact ⟨.refused _, trivial, fun fs => by simp only [connectAt, hd, hc]; rfl⟩
    | some c' => exact ⟨.made i _, rfl, fun fs => by simp only [connectAt, hd, hc]; rfl⟩

theorem exists_verdict_replaceAt (i : Nat) (e : Expression)
    (hu : ∀ s, schema = some s → s.Unhooked) :
    ∃ v : Verdict, v.Within i ∧ ∀ fs, replaceAt fs i e schema = v.on fs := by
  cases schema with
  | none => exact ⟨.made i e, rfl, fun fs => rfl⟩
  | some s =>
    have hcontext (fs : Filter) : s.validateExpression e (some i) (fs.set i e) =
        s.validateExpression e (some i) [] := Schema.validateExpression_context (hu s rfl) ..
    cases hr : s.validateExpression e (some i) [] with
    | error f =>
      exact ⟨.fault f, trivial, fun fs => bind_error_first ((hcontext fs).trans hr)⟩
    | ok report =>
      have hreplace (fs : Filter) : replaceAt fs i e (some s) =
          if report.isValid then .ok (done (fs.set i e))
          else (rejection i report.errors).map fun _ => failed fs report.errors := by
        simp only [replaceAt, hcontext, hr]
        rfl
      cases hv : report.isValid with
      | true => exact ⟨.made i e, rfl, fun fs => by simp only [hreplace, hv]; rfl⟩
      | false =>
        cases hn : rejection i report.errors with
        | error f => exact ⟨.fault f, trivial, fun fs => by simp only [hreplace, hv, hn]; rfl⟩
        | ok note =>
          exact ⟨.refused report.errors, trivial, fun fs => by simp only [hreplace, hv, hn]; rfl⟩

/-- An edit comes to the same with all filters of one length that have the same expression at its
index. -/
theorem exists_verdict (hne : edit ≠ .delete) (hu : ∀ s, schema = some s → s.Unhooked)
    (es : Filter) (index : Int) :
    ∃ v : Verdict, v.Within index ∧ ∀ fs trailing, fs.length = es.length →
      (∀ i : Nat, index = i → fs[i]? = es[i]?) → edit.apply fs index schema trailing = v.on fs := by
  by_cases hindex : index < 0 ∨ (es.length : Int) ≤ index
  · obtain ⟨v, hw, hv⟩ := exists_verdict_outside es index
    refine ⟨v, hw, fun fs trailing hlength _ => ?_⟩
    rw [apply_outside (by rwa [hlength]), hv fs hlength]
  · obtain ⟨i, rfl⟩ : ∃ i : Nat, index = i := ⟨index.toNat, by omega⟩
    have he : es[i]? = some es[i] := List.getElem?_eq_getElem (by omega)
    cases edit with
    | delete => exact absurd rfl hne
    | connector d =>
      obtain ⟨v, hw, hv⟩ := exists_verdict_connectAt i es[i] d
      refine ⟨v, hw, fun fs trailing _ hread => ?_⟩
      rw [apply_connector ((hread i rfl).trans he), hv]
    | value | operator | field =>
      obtain ⟨v, hw, hv⟩ := exists_verdict_replaceAt i { es[i] with condition := _ } hu
      refine ⟨v, hw, fun fs trailing _ hread => ?_⟩
      rw [apply_condition ((hread i rfl).trans he) rfl, hv]

end Edit

namespace State

def editAnswer (s : State) (edit : Edit) (index : Int) (schema : Option Schema) :
    Except Failure (Bool × List Problem) :=
  (s.edit edit index schema).1.map fun r => (r.success, r.errors)

def Deletes (s : State) (i : Nat) (s' : State) : Prop :=
  ∃ r, s.edit .delete i none = (.ok r, s') ∧ r.success = true

section
variable {s s' : State} {edit : Edit} {es : Filter} {index : Int} {schema : Option Schema}
  {v w : Verdict} {i j : Nat}

-- ---------------------------------------------------------------------------
-- Edits of one expression
-- ---------------------------------------------------------------------------

theorem withExpressions_withExpressions (s : State) (es fs : Filter) :
    (s.withExpressions es).withExpressions fs = s.withExpressions fs := by
  cases s <;> rfl

theorem edit_of_verdict (hs : s.WellFormed)
    (h : edit.apply s.expressions index schema s.pending? = v.on s.expressions) :
    s.editAnswer edit index schema = v.answer ∧
      s.after (.edit edit index schema) = v.after s := by
  cases v with
  | made | refused =>
    have hedit := edit_of_apply_ok hs h
    exact ⟨by rw [editAnswer, hedit]; rfl, by rw [after_edit, hedit]; rfl⟩
  | fault f =>
    have hedit := edit_of_apply_error h
    exact ⟨by rw [editAnswer, hedit]; rfl, by rw [after_edit, hedit]; rfl⟩

theorem expressions_after_verdict (hw : v.Within index) :
    (v.after s).expressions.length = s.expressions.length ∧
      ∀ i : Nat, index ≠ i → (v.after s).expressions[i]? = s.expressions[i]? := by
  cases v with
  | refused | fault => exact ⟨rfl, fun _ _ => rfl⟩
  | made i e =>
    obtain rfl : index = i := hw
    have hframe := Filter.sameBut_set s.expressions i e
    rw [Verdict.after, withExpressions_expressions]
    exact ⟨hframe.length, fun j hj => hframe.others j fun h => hj (congrArg Nat.cast h.symm)⟩

theorem verdicts_commute (hv : v.Within index) (hw : w.Within index') (hne : index ≠ index')
    (s : State) : w.after (v.after s) = v.after (w.after s) := by
  cases v with
  | refused | fault => rfl
  | made i e =>
    cases w with
    | refused | fault => rfl
    | made j e' =>
      have hij : i ≠ j := fun h => hne (hv.trans ((congrArg Nat.cast h).trans hw.symm))
      simp only [Verdict.after, withExpressions_expressions, withExpressions_withExpressions]
      rw [List.set_comm _ _ hij]

-- ---------------------------------------------------------------------------
-- Removals
-- ---------------------------------------------------------------------------

theorem deletes_of_lt (hs : s.WellFormed) (hi : i < s.expressions.length) :
    s.Deletes i
      (s.withExpressions (Filter.withLast s.pending? (s.expressions.eraseIdx i))) :=
  ⟨_, edit_of_apply_ok hs (Edit.apply_delete (List.getElem?_eq_getElem hi)), rfl⟩

theorem pending?_withLast_pending (hne : es ≠ []) :
    (s.withExpressions (es.withLast s.pending?)).pending? = s.pending? := by
  rw [withExpressions_pending?, lastConnector?_withLast hne, pending?_while_building]

theorem deletes_deletes (hs : s.WellFormed) (hi : i < s.expressions.length)
    (hj : j + 1 < s.expressions.length) :
    ∃ s₁, s.Deletes i s₁ ∧ s₁.Deletes j (s.withExpressions
      (Filter.withLast s.pending? ((s.expressions.eraseIdx i).eraseIdx j))) := by
  have hfirst := deletes_of_lt hs hi
  have hlength : (s.expressions.eraseIdx i).length = s.expressions.length - 1 :=
    List.length_eraseIdx_of_lt hi
  have hne : s.expressions.eraseIdx i ≠ [] := List.ne_nil_of_length_pos (by omega)
  have hw := withExpressions_of_makes hs (.delete (List.getElem?_eq_getElem hi))
  have hsecond := deletes_of_lt (i := j) hw (by
    rw [withExpressions_expressions, Filter.length_withLast]
    omega)
  rw [pending?_withLast_pending hne, withExpressions_expressions, withExpressions_withExpressions,
    Filter.withLast_eraseIdx_withLast] at hsecond
  exact ⟨_, hfirst, hsecond⟩

-- ---------------------------------------------------------------------------
-- Either order
-- ---------------------------------------------------------------------------

/-- Wherever a machine got to, two edits at different places are answered in one order as in the
other and end in the same state, and so do two removals. -/
theorem independent_edits_commute (hs : s.Reachable) :
    (∀ (a b : Edit) (i j : Int) (sa sb : Option Schema), a ≠ .delete → b ≠ .delete → i ≠ j →
      (∀ schema, sa = some schema → schema.Unhooked) →
      (∀ schema, sb = some schema → schema.Unhooked) →
        (s.after (.edit b j sb)).editAnswer a i sa = s.editAnswer a i sa ∧
        (s.after (.edit a i sa)).editAnswer b j sb = s.editAnswer b j sb ∧
        (s.after (.edit a i sa)).after (.edit b j sb) =
          (s.after (.edit b j sb)).after (.edit a i sa)) ∧
    ∀ i j : Nat, i < j → j < s.expressions.length →
      ∃ s₁ s₂ t, s.Deletes i s₁ ∧ s₁.Deletes (j - 1) t ∧ s.Deletes j s₂ ∧ s₂.Deletes i t := by
  have hs : s.WellFormed := hs.wellFormed
  constructor
  · intro a b i j sa sb ha hb hne hsa hsb
    obtain ⟨v, hv, happly⟩ := Edit.exists_verdict ha hsa s.expressions i
    obtain ⟨w, hw, happly'⟩ := Edit.exists_verdict hb hsb s.expressions j
    obtain ⟨hanswer, hafter⟩ := edit_of_verdict hs (happly _ s.pending? rfl fun _ _ => rfl)
    obtain ⟨hanswer', hafter'⟩ := edit_of_verdict hs (happly' _ s.pending? rfl fun _ _ => rfl)
    -- The second edit finds its own expression as it was.
    obtain ⟨hlength, hread⟩ := expressions_after_verdict (s := s) hv
    obtain ⟨hlength', hread'⟩ := expressions_after_verdict (s := s) hw
    obtain ⟨hlater, hend⟩ := edit_of_verdict (hafter' ▸ after_wellFormed hs (.edit b j sb))
      (happly _ (w.after s).pending? hlength' fun k hk => hread' k (hk ▸ hne.symm))
    obtain ⟨hlater', hend'⟩ := edit_of_verdict (hafter ▸ after_wellFormed hs (.edit a i sa))
      (happly' _ (v.after s).pending? hlength fun k hk => hread k (hk ▸ hne))
    rw [hafter, hafter', hanswer, hanswer', hend, hend']
    exact ⟨hlater, hlater', verdicts_commute hv hw hne s⟩
  · intro i j hij hj
    obtain ⟨s₁, hfirst, hsecond⟩ := deletes_deletes (j := j - 1) hs (Nat.lt_trans hij hj) (by omega)
    obtain ⟨s₂, hfirst', hsecond'⟩ := deletes_deletes (j := i) hs hj (by omega)
    have hrest : (s.expressions.eraseIdx i).eraseIdx (j - 1) =
        (s.expressions.eraseIdx j).eraseIdx i := by
      rw [Filter.eraseIdx_eraseIdx _ (by omega), Nat.sub_add_cancel (by omega)]
    exact ⟨s₁, s₂, _, hfirst, hsecond, hfirst', hrest ▸ hsecond'⟩

end

/-- The pending connector exchanged, and a value before it. The last two of three expressions
removed. -/
theorem independent_edits_commute_pending :
    let blue : Value := ⟨.text "blue", "blue", "blue"⟩
    let a : Operation := .edit (.connector (.text "OR")) 2 none
    let b : Operation := .edit (.value blue) 0 none
    let s : State := selectingField [.plain "colour" "is" "red" "OR",
      .plain "size" "is" "small" "AND", .plain "size" "is" "large" "AND"] (some "AND")
    s.Reachable ∧ (s.after a).after b = (s.after b).after a ∧
      ((s.after a).after b).pending? = some "OR" ∧
      ∃ s₁ s₂ t, s.Deletes 1 s₁ ∧ s₁.Deletes 1 t ∧ s.Deletes 2 s₂ ∧ s₂.Deletes 1 t := by
  intro blue a b s
  have hs : s.Reachable :=
    ⟨[.plain "colour" "is" "red" "OR", .plain "size" "is" "small" "AND",
      .plain "size" "is" "large"], _, [.transition .focus], rfl, rfl⟩
  obtain ⟨hedits, hdeletes⟩ := independent_edits_commute hs
  obtain ⟨-, -, hsame⟩ := hedits (.connector (.text "OR")) (.value blue) 2 0 none none nofun nofun
    (by decide) nofun nofun
  exact ⟨hs, hsame, rfl, hdeletes 1 2 (by decide) (by decide)⟩

end State

end Criteria
