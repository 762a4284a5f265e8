import Criteria.Proofs.Machine.Runs

/-!
# Undoing

A forward action chooses the next token. Deleting the last token undoes it, although the
state it leads to no longer holds what has to come back: the pending connector is read off
the last committed expression, the field and the operator off the one that is taken back.
That they are the right ones is the invariant of the machine.
-/

namespace Criteria.State

def applyAll? (s : State) : List Action → Option State
  | [] => some s
  | a :: rest =>
    match s.transition a with
    | (.ok (.applied ..), s') => s'.applyAll? rest
    | _ => none

variable {s s' t : State} {a : Action} {as bs : List Action}

theorem applyAll?_append :
    s.applyAll? (as ++ bs) = (s.applyAll? as).bind (·.applyAll? bs) := by
  induction as generalizing s with
  | nil => rfl
  | cons a as ih =>
    simp only [List.cons_append, applyAll?]
    split
    · exact ih
    · rfl

theorem applyAll?_cons (hs : s.WellFormed) :
    s.applyAll? (a :: as) = some t ↔ ∃ s', Moves s a s' ∧ s'.applyAll? as = some t := by
  rcases transition_cases hs a with ⟨s₁, hm, ha⟩ | ⟨r, hr, ha⟩ | ⟨hc, ha⟩
  · simp only [applyAll?, ha.transition]
    constructor
    · exact fun h => ⟨s₁, hm, h⟩
    · rintro ⟨s₂, hm₂, h⟩
      obtain rfl : s₁ = s₂ := Option.some.inj (hm.next?.symm.trans hm₂.next?)
      exact h
  · simp only [applyAll?, ha, reduceCtorEq, false_iff]
    rintro ⟨s₁, hm, -⟩
    exact absurd (hm.refusal?.symm.trans hr) (by simp)
  · simp only [applyAll?, ha, reduceCtorEq, false_iff]
    rintro ⟨s₁, hm, -⟩
    exact hm.not_cannotRefuse hc

theorem Moves.undo (h : Moves s a s') (hs : s.WellFormed) (ha : a.isForward = true) :
    Moves s' .deleteLast s := by
  cases h with
  | selectField => exact .deleteField
  | selectOperator => exact .deleteOperator
  | @confirmValue es pending field operator value =>
    -- The pending connector is still known: the last expression carries it.
    have hp : es.lastConnector? = pending := Filter.Awaits.last hs
    exact hp ▸ .deleteValue
  | @selectConnector d c es hne hc =>
    -- Before a connector was chosen there was none at the end, so taking it away is enough.
    have he : (es.withLast (some c)).withLast none = es := by
      rw [Filter.withLast_withLast, Filter.Linked.withLast_none hs]
    have hm : Moves (selectingField (es.withLast (some c)) (some c)) .deleteLast
        (selectingConnector ((es.withLast (some c)).withLast none)) :=
      .deleteConnector (Filter.withLast_ne_nil hne)
    rwa [he] at hm
  | _ => cases ha

theorem applyAll?_undo (hs : s.WellFormed) (hf : ∀ a ∈ as, a.isForward = true)
    (h : s.applyAll? as = some t) :
    t.applyAll? (List.replicate as.length .deleteLast) = some s := by
  induction as generalizing s with
  | nil => exact h.symm
  | cons a as ih =>
    simp only [List.forall_mem_cons] at hf
    obtain ⟨s₁, hm, hrest⟩ := (applyAll?_cons hs).mp h
    have hs₁ : s₁.WellFormed := hm.wellFormed hs
    have hback : s₁.applyAll? [.deleteLast] = some s :=
      (applyAll?_cons hs₁).mpr ⟨s, hm.undo hs hf.1, rfl⟩
    -- The last of the deletions undoes the first of the choices.
    rw [List.length_cons, List.replicate_succ', applyAll?_append, ih hs₁ hf.2 hrest]
    exact hback

/-- From wherever a machine got to, as many deletions as there were choices lead back. -/
theorem deleteLast_inverts_building (hs : s.Reachable) (hf : ∀ a ∈ as, a.isForward = true)
    (h : s.applyAll? as = some t) :
    t.applyAll? (List.replicate as.length .deleteLast) = some s :=
  applyAll?_undo hs.wellFormed hf h

/-- A whole expression and the start of another, taken back to an edited filter. -/
theorem deleteLast_inverts_building_twice :
    let s : State := selectingField [.plain "colour" "is" "blue" "AND"] (some "AND")
    let as : List Action :=
      [.selectField (some { key := "size", label := "Size" }),
        .selectOperator (some { key := "is", label := "is" }),
        .confirmValue ⟨.text "small", "small", "small"⟩, .selectConnector (.text "OR"),
        .selectField none]
    s.Reachable ∧ ∃ t, s.applyAll? as = some t ∧
      t.applyAll? (List.replicate 5 .deleteLast) = some s := by
  intro s as
  have hs : s.Reachable :=
    ⟨[.plain "colour" "is" "red"], _,
      [.transition .focus, .edit (.value ⟨.text "blue", "blue", "blue"⟩) 0 none], rfl, rfl⟩
  have hf : ∀ a ∈ as, a.isForward = true := by decide
  exact ⟨hs, _, rfl, deleteLast_inverts_building hs hf rfl⟩

end Criteria.State
