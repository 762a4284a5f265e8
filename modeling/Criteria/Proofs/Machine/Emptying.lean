import Criteria.Proofs.Machine.Undo

/-!
# Deleting until nothing is left

Each deletion of the last token takes one level off the depth of a state (`State.depth`), whatever
slots are empty, and leads towards the same last state (`State.bottom`). There a deletion is
ignored, so it is from then on. The number of committed expressions alone would not do as a
measure: it goes down with one deletion in four.
-/

namespace Criteria.State

/-- How often the last token of a state can be deleted: four times for each expression, its
connector counted, and once for each slot of the next one. -/
def depth : State → Nat
  | idle _ => 0
  | selectingField es _ => 4 * es.length
  | selectingOperator es _ _ => 4 * es.length + 1
  | enteringValue es _ _ _ => 4 * es.length + 2
  | selectingConnector es => 4 * es.length - 1

def bottom : State → State
  | idle es => idle es
  | selectingConnector [] => selectingConnector []
  | _ => selectingField [] none

def afterDeletions (s : State) (k : Nat) : State :=
  s.run (List.replicate k (.transition .deleteLast))

/-- Of all deletions of the last token the first `n` are applied. They lead to `last`, where
every further one is ignored and changes nothing. -/
structure RunsDown (s : State) (n : Nat) (last : State) : Prop where
  applied : ∀ k < n, (s.afterDeletions k).Applies .deleteLast (s.afterDeletions (k + 1))
  ignored : ∀ k ≥ n, s.afterDeletions k = last ∧ (s.afterDeletions k).transition .deleteLast =
    (.ok (.ignored .deleteLast last.step .nothingToDelete), last)

variable {s s' last : State} {r : Refusal} {n k : Nat}

-- ---------------------------------------------------------------------------
-- One deletion
-- ---------------------------------------------------------------------------

theorem Moves.depth_delete (h : Moves s .deleteLast s') : s.depth = s'.depth + 1 := by
  cases h with
  | deleteConnector hne =>
    have hpos := List.length_pos_iff.mpr hne
    simp only [depth, Filter.length_withLast]
    omega
  | deleteField | deleteOperator => rfl
  | deleteValue =>
    simp only [depth, List.length_append, List.length_singleton]
    omega

theorem bottom_selectingConnector {es : Filter} (hne : es ≠ []) :
    (selectingConnector es).bottom = selectingField [] none := by
  obtain ⟨e, rest, rfl⟩ := List.exists_cons_of_ne_nil hne
  rfl

theorem Moves.bottom_delete (h : Moves s .deleteLast s') : s'.bottom = s.bottom := by
  cases h with
  | deleteConnector hne => exact bottom_selectingConnector (Filter.withLast_ne_nil hne)
  | deleteField | deleteOperator => rfl
  | deleteValue => exact (bottom_selectingConnector (by simp)).symm

theorem Moves.building_delete (h : Moves s .deleteLast s') : s'.step ≠ .idle := by
  cases h <;> nofun

theorem bottom_of_refusal (hs : s.WellFormed) (hstep : s.step ≠ .idle)
    (h : s.refusal? .deleteLast = .ok (some r)) :
    r = .nothingToDelete ∧ s.depth = 0 ∧ s.bottom = s := by
  cases s with
  | idle => exact absurd rfl hstep
  | selectingField es pending =>
    cases es with
    | nil =>
      obtain rfl : pending = none := Filter.awaits_nil_iff.mp hs
      cases h
      exact ⟨rfl, rfl, rfl⟩
    | cons => cases h
  | selectingOperator | enteringValue => cases h
  | selectingConnector es =>
    cases es with
    | nil =>
      cases h
      exact ⟨rfl, rfl, rfl⟩
    | cons => cases h

-- ---------------------------------------------------------------------------
-- All deletions
-- ---------------------------------------------------------------------------

theorem afterDeletions_succ :
    s.afterDeletions (k + 1) = (s.after (.transition .deleteLast)).afterDeletions k := rfl

theorem Applies.after (h : s.Applies a s') : s.after (.transition a) = s' := by
  rw [after_transition, h.transition]

theorem runsDown_of_ignored (h : s.transition .deleteLast =
    (.ok (.ignored .deleteLast s.step .nothingToDelete), s)) : s.RunsDown 0 s := by
  have hstays (k : Nat) : s.afterDeletions k = s := by
    induction k with
    | zero => rfl
    | succ k ih =>
      rw [afterDeletions_succ, after_transition, h, ih]
  exact ⟨fun k hk => absurd hk (Nat.not_lt_zero k),
    fun k _ => ⟨hstays k, (hstays k).symm ▸ h⟩⟩

theorem RunsDown.step (h : s.Applies .deleteLast s') (hr : s'.RunsDown n last) :
    s.RunsDown (n + 1) last := by
  have hafter (k : Nat) : s.afterDeletions (k + 1) = s'.afterDeletions k := by
    rw [afterDeletions_succ, h.after]
  constructor
  · intro k hk
    cases k with
    | zero => exact (hafter 0).symm ▸ h
    | succ k =>
      rw [hafter, hafter]
      exact hr.applied k (Nat.lt_of_succ_lt_succ hk)
  · intro k hk
    obtain ⟨k, rfl⟩ := Nat.exists_eq_add_of_le' (Nat.le_trans (Nat.le_add_left 1 n) hk)
    rw [hafter]
    exact hr.ignored k (Nat.le_of_succ_le_succ hk)

theorem runsDown_of_depth (hs : s.WellFormed) (hstep : s.step ≠ .idle) (hn : s.depth = n) :
    s.RunsDown n s.bottom := by
  induction n generalizing s with
  | zero =>
    obtain ⟨s', hm, -⟩ | ⟨r, hr, ht⟩ | ⟨⟨_, ⟨⟩, -⟩, -⟩ := transition_cases hs .deleteLast
    · exact absurd (hm.depth_delete.symm.trans hn) (Nat.succ_ne_zero _)
    · obtain ⟨rfl, -, hbottom⟩ := bottom_of_refusal hs hstep hr
      exact hbottom.symm ▸ runsDown_of_ignored ht
  | succ n ih =>
    obtain ⟨s', hm, ha⟩ | ⟨r, hr, -⟩ | ⟨⟨_, ⟨⟩, -⟩, -⟩ := transition_cases hs .deleteLast
    · have hdepth : s'.depth = n := Nat.succ.inj (hm.depth_delete.symm.trans hn)
      exact .step ha (hm.bottom_delete ▸ ih (hm.wellFormed hs) hm.building_delete hdepth)
    · obtain ⟨-, hzero, -⟩ := bottom_of_refusal hs hstep hr
      exact absurd (hzero.symm.trans hn) (Nat.succ_ne_zero _).symm

/-- Wherever a machine got to outside the idle step, the last token can be deleted as often as the
state is deep, and then nothing is left to be deleted. -/
theorem deletions_run_down (hs : s.Reachable) (hstep : s.step ≠ .idle) :
    s.RunsDown s.depth s.bottom :=
  runsDown_of_depth hs.wellFormed hstep rfl

/-- A step that was cleared and then given an expression, and one that was left empty. -/
theorem deletions_run_down_hollow :
    let s : State := enteringValue [.plain "colour" "is" "red" "AND"] (some "AND") none none
    let t : State := selectingConnector []
    s.Reachable ∧ s.RunsDown 6 (selectingField [] none) ∧ t.Reachable ∧ t.RunsDown 0 t := by
  intro s t
  let colour : FieldRef := { key := "colour", label := "Colour" }
  let choices : List Operation :=
    [.transition .focus, .transition (.selectField colour), .transition (.selectOperator none)]
  have hs : s.Reachable :=
    ⟨[], _, choices ++ [.clear, .load [.plain "colour" "is" "red"]], rfl, rfl⟩
  have ht : t.Reachable :=
    ⟨[.plain "colour" "is" "red"], _,
      [.transition .focus, .transition .deleteLast, .edit .delete 0 none], rfl, rfl⟩
  exact ⟨hs, deletions_run_down hs nofun, ht, deletions_run_down ht nofun⟩

end Criteria.State
