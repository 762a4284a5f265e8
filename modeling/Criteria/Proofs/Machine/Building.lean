import Criteria.Proofs.Machine.Undo

/-!
# Building token by token

Any filter can be entered by choosing its tokens from the first to the last: field, operator
and value of each expression, and then its connector if it has one. What was entered before
stays, joined by the implied connector. A machine that starts empty ends as one that the
filter was loaded into.
-/

namespace Criteria

def Condition.choices (c : Condition) : List Action :=
  [.selectField (some c.field), .selectOperator (some c.operator), .confirmValue c.value]

def Expression.choices (e : Expression) : List Action :=
  e.condition.choices ++ (e.connector.map fun c => .selectConnector (.text c)).toList

def Filter.entering (es : Filter) : List Action :=
  .focus :: es.flatMap Expression.choices ++ [.complete]

namespace State

open Criteria.Filter (Linked Awaits)

variable {s s' t : State} {a : Action} {as : List Action} {es xs ys : Filter} {c : Connector}
  {condition : Condition} {pending : Option Connector}

theorem Moves.applyAll?_cons (h : Moves s a s') (hs : s.WellFormed) :
    s.applyAll? (a :: as) = s'.applyAll? as := by
  simp only [applyAll?, (h.applies hs).transition]

theorem applyAll?_condition (h : Awaits es pending) :
    (selectingField es pending).applyAll? (condition.choices ++ as) =
      (selectingConnector (es ++ [⟨condition, none⟩])).applyAll? as := by
  rw [Condition.choices, List.cons_append, Moves.selectField.applyAll?_cons h, List.cons_append,
    Moves.selectOperator.applyAll?_cons h, List.cons_append, Moves.confirmValue.applyAll?_cons h]
  rfl

theorem applyAll?_expression (h : Awaits es pending) (hc : c ∈ Connector.all) :
    (selectingField es pending).applyAll? ((⟨condition, some c⟩ : Expression).choices ++ as) =
      (selectingField (es ++ [⟨condition, some c⟩]) (some c)).applyAll? as := by
  have hl : Linked (es ++ [⟨condition, none⟩]) := Filter.linked_concat.mpr ⟨h.joined, rfl⟩
  have hm : Moves (selectingConnector (es ++ [⟨condition, none⟩])) (.selectConnector (.text c)) _ :=
    .selectConnector (by simp) (Connector.ofData?_text hc)
  rw [Expression.choices, List.append_assoc, applyAll?_condition h, Option.map_some,
    Option.toList_some, List.singleton_append, hm.applyAll?_cons hl, Filter.withLast_concat]
  rfl

theorem applyAll?_choices (h : Awaits es pending) (hne : xs ≠ []) (hl : Linked xs)
    (hc : ∀ e ∈ xs, ∀ c, e.connector = some c → c ∈ Connector.all) :
    (selectingField es pending).applyAll? (xs.flatMap Expression.choices ++ as) =
      (selectingConnector (es ++ xs)).applyAll? as := by
  -- The induction is on what is still to be entered. What was entered before may grow.
  induction xs generalizing es pending with
  | nil => exact absurd rfl hne
  | cons e xs ih =>
    obtain ⟨condition, connector⟩ := e
    rw [List.forall_mem_cons] at hc
    by_cases hxs : xs = []
    · obtain rfl : connector = none := Filter.linked_singleton.mp (hxs ▸ hl)
      rw [hxs, List.flatMap_singleton]
      exact applyAll?_condition h
    · obtain ⟨hn, hrest⟩ := (Filter.linked_cons hxs).mp hl
      obtain ⟨c, rfl⟩ := Option.ne_none_iff_exists'.mp hn
      have hnext : Awaits (es ++ [⟨condition, some c⟩]) (some c) :=
        Filter.awaits_concat.mpr ⟨Filter.connected_concat.mpr h.joined, rfl, by simp⟩
      rw [List.flatMap_cons, List.append_assoc, applyAll?_expression h (hc.1 c rfl),
        ih hnext hxs hrest hc.2, List.append_assoc, List.singleton_append]

theorem applyAll?_entering (hs : Linked ys) (hne : xs ≠ []) (hl : Linked xs)
    (hc : ∀ e ∈ xs, ∀ c, e.connector = some c → c ∈ Connector.all) :
    (idle ys).applyAll? xs.entering =
      some (idle (ys.withLast (some Connector.implied) ++ xs)) := by
  have hfocus : ∃ pending, Moves (idle ys) .focus
      (selectingField (ys.withLast (some Connector.implied)) pending) := by
    by_cases hys : ys = []
    · exact ⟨none, hys ▸ .begin⟩
    · exact ⟨_, .resume hys⟩
  obtain ⟨pending, hfocus⟩ := hfocus
  have hbegun : Awaits (ys.withLast (some Connector.implied)) pending := hfocus.wellFormed hs
  have hdone : Linked (ys.withLast (some Connector.implied) ++ xs) := by
    obtain ⟨front, last, rfl⟩ := (Filter.eq_nil_or_append xs).resolve_left hne
    obtain ⟨hfront, hlast⟩ := Filter.linked_concat.mp hl
    rw [← List.append_assoc]
    refine Filter.linked_concat.mpr ⟨fun e he => ?_, hlast⟩
    exact (List.mem_append.mp he).elim (hbegun.joined e) (hfront e)
  rw [Filter.entering, List.cons_append, hfocus.applyAll?_cons hs,
    applyAll?_choices hbegun hne hl hc, Moves.complete.applyAll?_cons hdone]
  rfl

theorem start_of_linkProblem? (h : xs.linkProblem? = none) : start xs = .ok (idle xs) := by
  have hw : (idle xs).WellFormed := Filter.linkProblem?_eq_none_iff.mp h
  simp [start, load, h, step, Step.isBuilding, withExpressions, enter_of_wellFormed hw]

/-- Wherever a machine stands idle, a filter can be entered token by token after what is there.
On an empty machine this is the same as loading the filter. -/
theorem entering_builds (hs : (idle ys).Reachable) (hne : xs ≠ []) (hl : xs.linkProblem? = none)
    (hc : ∀ e ∈ xs, ∀ c, e.connector = some c → c ∈ Connector.all) :
    (idle ys).applyAll? xs.entering =
        some (idle (ys.withLast (some Connector.implied) ++ xs)) ∧
      ∃ fresh loaded, start [] = .ok fresh ∧ start xs = .ok loaded ∧
        fresh.applyAll? xs.entering = some loaded := by
  have hlinked : Linked xs := Filter.linkProblem?_eq_none_iff.mp hl
  refine ⟨applyAll?_entering hs.wellFormed hne hlinked hc, idle [], idle xs, rfl, ?_, ?_⟩
  · exact start_of_linkProblem? hl
  · exact applyAll?_entering Filter.linked_nil hne hlinked hc

theorem entering_builds_after_edit :
    let ys : Filter := [.plain "colour" "is" "blue"]
    let xs : Filter := [.plain "size" "is" "small" "OR", .plain "size" "is" "large"]
    (idle ys).Reachable ∧ xs.linkProblem? = none ∧
      (idle ys).applyAll? xs.entering = some (idle (.plain "colour" "is" "blue" "AND" :: xs)) ∧
      (idle []).applyAll? xs.entering = some (idle xs) := by
  intro ys xs
  have hs : (idle ys).Reachable :=
    ⟨[.plain "colour" "is" "red"], _,
      [.edit (.value ⟨.text "blue", "blue", "blue"⟩) 0 none], rfl, rfl⟩
  have hl : xs.linkProblem? = none := rfl
  have hc : ∀ e ∈ xs, ∀ c, e.connector = some c → c ∈ Connector.all := by
    simp [xs, Expression.plain, Connector.all]
  obtain ⟨hentered, fresh, loaded, hfresh, hloaded, hsame⟩ :=
    entering_builds hs (List.cons_ne_nil _ _) hl hc
  obtain rfl := Except.ok.inj hfresh
  obtain rfl := Except.ok.inj hloaded
  exact ⟨hs, hl, hentered, hsame⟩

end State

end Criteria
