import Mathlib.Data.List.Induction
import Criteria.Suggestion.Session

/-!
# Histories of a session

The queries of one session start and complete in any order, and in between the session or a
provider may cancel. The session knows only its newest ticket. The older ones need no check:
each was cancelled when the next one was issued, and no ticket is ever live again. So a query
delivers exactly if nothing has cancelled it between its start and its completion.
-/

namespace Criteria.Session

/-- What happens on a session. Queries are known by their tickets. -/
inductive Event where
  | start
  | cancel
  | withdraw (ticket : Nat)
  | complete (ticket : Nat) (answer : Answer)

/-- Whether a query that runs is cancelled by something other than its own completion. -/
def Event.cancels (ticket : Nat) : Event → Bool
  | start | cancel => true
  | withdraw t => t == ticket
  | complete _ _ => false

inductive Progress where
  | running
  | returned (items : Option (List Item))

structure Desk where
  session : Session := {}
  queries : List Progress := []

namespace Desk

/-- A completion concerns a query only once, while it runs. -/
def after (d : Desk) : Event → Desk
  | .start => ⟨d.session.start.1, d.queries ++ [.running]⟩
  | .cancel => ⟨d.session.cancel, d.queries⟩
  | .withdraw t => ⟨d.session.cancelTicket t, d.queries⟩
  | .complete t answer =>
    match d.queries[t]? with
    | some .running =>
      let (s, items) := d.session.deliver t answer
      ⟨s, d.queries.set t (.returned items)⟩
    | _ => d

def run (d : Desk) (events : List Event) : Desk := events.foldl after d

end Desk

/-- A query that has started and not completed, with the events since its start. -/
structure Pending (events : List Event) (ticket : Nat) (since : List Event) : Prop where
  started : ∃ before, events = before ++ .start :: since ∧
    (Desk.run {} before).session.start.2 = ticket
  waits : ∀ answer, .complete ticket answer ∉ since

/-- A query that has completed, with the events between its start and its completion. -/
def Completed (events : List Event) (ticket : Nat) (between : List Event) (answer : Answer) :
    Prop :=
  ∃ started after, events = started ++ .complete ticket answer :: after ∧
    Pending started ticket between

variable {s s' : Session} {d : Desk} {t u : Nat} {e : Event} {events between : List Event}
  {answer : Answer} {items : Option (List Item)}

-- ---------------------------------------------------------------------------
-- Tickets
-- ---------------------------------------------------------------------------

@[simp] theorem length_cancelTicket (s : Session) (t : Nat) :
    (s.cancelTicket t).cancelled.length = s.cancelled.length :=
  List.length_set

@[simp] theorem length_cancel (s : Session) : s.cancel.cancelled.length = s.cancelled.length :=
  s.length_cancelTicket _

@[simp] theorem length_start (s : Session) :
    s.start.1.cancelled.length = s.cancelled.length + 1 := by
  simp [start]

@[simp] theorem length_deliver (s : Session) (t : Nat) (answer : Answer) :
    (s.deliver t answer).1.cancelled.length = s.cancelled.length := by
  simp only [deliver]
  split <;> simp

theorem isCancelled_cancelTicket (h : t < s.cancelled.length) :
    (s.cancelTicket u).isCancelled t = (s.isCancelled t || u == t) := by
  by_cases hu : u = t
  · simp [isCancelled, cancelTicket, hu, h]
  · simp [isCancelled, cancelTicket, hu]

theorem isCancelled_start (h : t < s.cancelled.length) :
    s.start.1.isCancelled t = s.cancel.isCancelled t := by
  have hc : t < s.cancel.cancelled.length := by simpa using h
  simp [isCancelled, start, List.getElem?_append_left hc]

theorem isCancelled_start_newest (s : Session) :
    s.start.1.isCancelled s.cancelled.length = false := by
  simp [isCancelled, start]

theorem isCancelled_deliver (h : t < s.cancelled.length) :
    (s.deliver u answer).1.isCancelled t = (s.isCancelled t || (answer.cancels && u == t)) := by
  cases hc : answer.cancels <;> simp [deliver, hc, isCancelled_cancelTicket h]

theorem deliver_items (h : t < s.cancelled.length) :
    (s.deliver t answer).2 =
      if s.isCancelled t || answer.cancels then none else some answer.items := by
  cases hc : answer.cancels <;> simp [deliver, hc, isCancelled_cancelTicket h]

-- ---------------------------------------------------------------------------
-- Live tickets
-- ---------------------------------------------------------------------------

def OnlyNewest (s : Session) : Prop :=
  ∀ t, t + 1 < s.cancelled.length → s.isCancelled t = true

inductive Steps (s : Session) : Session → Prop where
  | same : Steps s s
  | start : Steps s s.start.1
  | cancelTicket (t : Nat) : Steps s (s.cancelTicket t)

theorem OnlyNewest.eq_newest (h : s.OnlyNewest) (ht : t < s.cancelled.length)
    (hl : s.isCancelled t = false) : t + 1 = s.cancelled.length := by
  by_contra hn
  have hc : s.isCancelled t = true := h t (by omega)
  simp [hl] at hc

theorem OnlyNewest.cancel (h : s.OnlyNewest) (ht : t < s.cancelled.length) :
    s.cancel.isCancelled t = true := by
  rw [Session.cancel, isCancelled_cancelTicket ht]
  cases hl : s.isCancelled t with
  | true => rfl
  | false => simp [← h.eq_newest ht hl]

theorem Steps.length_le (h : Steps s s') : s.cancelled.length ≤ s'.cancelled.length := by
  cases h with
  | same => exact Nat.le_refl _
  | start => simp
  | cancelTicket => simp

theorem Steps.onlyNewest (h : Steps s s') (hs : s.OnlyNewest) : s'.OnlyNewest := by
  intro t ht
  cases h with
  | same => exact hs t ht
  | start =>
    have ht : t < s.cancelled.length := by simpa using ht
    rw [isCancelled_start ht, hs.cancel ht]
  | cancelTicket u =>
    have ht : t + 1 < s.cancelled.length := by simpa using ht
    rw [isCancelled_cancelTicket (by omega), hs t ht, Bool.true_or]

-- ---------------------------------------------------------------------------
-- What every history keeps
-- ---------------------------------------------------------------------------

namespace Desk

structure Sound (d : Desk) : Prop where
  aligned : d.queries.length = d.session.cancelled.length
  onlyNewest : d.session.OnlyNewest

@[simp] theorem run_nil (d : Desk) : d.run [] = d :=
  rfl

@[simp] theorem run_cons (d : Desk) (e : Event) (events : List Event) :
    d.run (e :: events) = (d.after e).run events :=
  rfl

@[simp] theorem run_append (d : Desk) (before events : List Event) :
    d.run (before ++ events) = (d.run before).run events :=
  List.foldl_append

theorem after_complete (h : d.queries[t]? = some .running) :
    d.after (.complete t answer) = ⟨(d.session.deliver t answer).1,
      d.queries.set t (.returned (d.session.deliver t answer).2)⟩ := by
  simp [after, h]

theorem after_complete_or (d : Desk) (t : Nat) (answer : Answer) :
    d.queries[t]? = some .running ∨ d.after (.complete t answer) = d := by
  simp only [after]
  split
  · exact .inl ‹_›
  · exact .inr rfl

theorem steps_after (d : Desk) (e : Event) : Steps d.session (d.after e).session := by
  cases e with
  | start => exact .start
  | cancel => exact .cancelTicket _
  | withdraw t => exact .cancelTicket t
  | complete t answer =>
    rcases after_complete_or d t answer with hr | hr
    · rw [after_complete hr]
      simp only [deliver]
      split
      · exact .cancelTicket t
      · exact .same
    · rw [hr]
      exact .same

theorem Sound.empty : Sound {} :=
  ⟨rfl, by simp [OnlyNewest]⟩

theorem Sound.after (h : d.Sound) (e : Event) : (d.after e).Sound := by
  refine ⟨?_, (d.steps_after e).onlyNewest h.onlyNewest⟩
  cases e with
  | complete t answer =>
    rcases after_complete_or d t answer with hr | hr
    · simp [after_complete hr, h.aligned]
    · rw [hr, h.aligned]
  | _ => simp [Desk.after, h.aligned]

theorem Sound.run (h : d.Sound) (events : List Event) : (d.run events).Sound := by
  induction events generalizing d with
  | nil => exact h
  | cons e events ih => exact ih (h.after e)

/-- A ticket that is not the newest one is cancelled before and after, so that a start and a
cancellation concern any ticket. -/
theorem Sound.isCancelled_after (h : d.Sound) (ht : t < d.session.cancelled.length)
    (he : ∀ answer, e ≠ .complete t answer) :
    (d.after e).session.isCancelled t = (d.session.isCancelled t || e.cancels t) := by
  cases e with
  | start => simp [Desk.after, Event.cancels, isCancelled_start ht, h.onlyNewest.cancel ht]
  | cancel => simp [Desk.after, Event.cancels, h.onlyNewest.cancel ht]
  | withdraw u => exact isCancelled_cancelTicket ht
  | complete u answer =>
    have hu : u ≠ t := fun hu => he answer (hu ▸ rfl)
    rcases after_complete_or d u answer with hr | hr
    · simp [after_complete hr, isCancelled_deliver ht, Event.cancels, hu]
    · simp [hr, Event.cancels]

theorem Sound.isCancelled_run (h : d.Sound) (ht : t < d.session.cancelled.length)
    (he : ∀ answer, .complete t answer ∉ events) :
    (d.run events).session.isCancelled t =
      (d.session.isCancelled t || events.any (·.cancels t)) := by
  induction events generalizing d with
  | nil => simp
  | cons e events ih =>
    have hstep : ∀ answer, e ≠ .complete t answer := fun answer heq => he answer (by simp [heq])
    have hrest : ∀ answer, .complete t answer ∉ events := fun answer hmem =>
      he answer (List.mem_cons_of_mem _ hmem)
    rw [run_cons, ih (h.after e) (Nat.lt_of_lt_of_le ht (d.steps_after e).length_le) hrest,
      h.isCancelled_after ht hstep]
    simp [Bool.or_assoc]

-- ---------------------------------------------------------------------------
-- Queries
-- ---------------------------------------------------------------------------

theorem queries_after (ht : t < d.queries.length) (he : ∀ answer, e ≠ .complete t answer) :
    (d.after e).queries[t]? = d.queries[t]? := by
  cases e with
  | start => simp [after, List.getElem?_append_left ht]
  | cancel | withdraw => rfl
  | complete u answer =>
    have hu : u ≠ t := fun hu => he answer (hu ▸ rfl)
    rcases after_complete_or d u answer with hr | hr
    · simp [after_complete hr, List.getElem?_set_ne hu]
    · rw [hr]

theorem returned_after (h : d.queries[t]? = some (.returned items)) :
    (d.after e).queries[t]? = some (.returned items) := by
  obtain ⟨ht, -⟩ := List.getElem?_eq_some_iff.1 h
  by_cases he : ∀ answer, e ≠ .complete t answer
  · rw [queries_after ht he, h]
  · -- a second completion finds the query returned
    obtain ⟨answer, rfl⟩ : ∃ answer, e = .complete t answer := by simpa using he
    simp [after, h]

theorem returned_run (h : d.queries[t]? = some (.returned items)) (events : List Event) :
    (d.run events).queries[t]? = some (.returned items) := by
  induction events generalizing d with
  | nil => exact h
  | cons e events ih => exact ih (returned_after h)

theorem running_run (h : d.queries[t]? = some .running)
    (he : ∀ answer, .complete t answer ∉ events) :
    (d.run events).queries[t]? = some .running := by
  induction events generalizing d with
  | nil => exact h
  | cons e events ih =>
    obtain ⟨ht, -⟩ := List.getElem?_eq_some_iff.1 h
    have hstep : ∀ answer, e ≠ .complete t answer := fun answer heq => he answer (by simp [heq])
    exact ih (by rw [queries_after ht hstep, h])
      fun answer hmem => he answer (List.mem_cons_of_mem _ hmem)

theorem unknown_after (h : d.queries[t]? = none) (e : Event) :
    (d.after e).queries[t]? = none ∨ e = .start ∧ t = d.queries.length := by
  have hlen : d.queries.length ≤ t := List.getElem?_eq_none_iff.1 h
  cases e with
  | start =>
    rcases Nat.lt_or_eq_of_le hlen with ht | ht
    · left
      simp [after]
      omega
    · exact .inr ⟨rfl, ht.symm⟩
  | cancel | withdraw => exact .inl h
  | complete u answer =>
    left
    rcases after_complete_or d u answer with hr | hr
    · simp [after_complete hr, hlen]
    · rw [hr, h]

end Desk

open Desk

theorem Pending.progress (h : Pending events t between) :
    (Desk.run {} events).queries[t]? = some .running ∧
      (Desk.run {} events).session.isCancelled t = between.any (·.cancels t) := by
  obtain ⟨⟨before, rfl, ht⟩, hw⟩ := h
  have hs : (Desk.run {} before).Sound := Sound.empty.run before
  have ht : (Desk.run {} before).session.cancelled.length = t := ht
  have running : ((Desk.run {} before).after .start).queries[t]? = some .running := by
    simp [Desk.after, ← ht, ← hs.aligned]
  have live : ((Desk.run {} before).after .start).session.isCancelled t = false := by
    rw [← ht]
    exact isCancelled_start_newest _
  have issued : t < ((Desk.run {} before).after .start).session.cancelled.length := by
    simp [Desk.after, ← ht]
  rw [run_append, run_cons]
  refine ⟨running_run running hw, ?_⟩
  simp [(hs.after .start).isCancelled_run issued hw, live]

theorem Completed.progress (h : Completed events t between answer) :
    (Desk.run {} events).queries[t]? = some (.returned
      (if between.any (·.cancels t) || answer.cancels then none else some answer.items)) := by
  obtain ⟨started, later, rfl, hp⟩ := h
  obtain ⟨running, cancelled⟩ := hp.progress
  obtain ⟨hq, -⟩ := List.getElem?_eq_some_iff.1 running
  have hs : (Desk.run {} started).Sound := Sound.empty.run started
  have issued : t < (Desk.run {} started).session.cancelled.length := hs.aligned ▸ hq
  rw [run_append, run_cons]
  apply returned_run
  rw [after_complete running, deliver_items issued, cancelled]
  simp [hq]

example : (Desk.run {} [.start, .start, .complete 1 ⟨[], false⟩, .complete 0 ⟨[], false⟩]).queries =
    [.returned none, .returned (some [])] :=
  rfl

theorem Pending.start (events : List Event) :
    Pending (events ++ [.start]) (Desk.run {} events).queries.length [] :=
  ⟨⟨events, rfl, (Sound.empty.run events).aligned.symm⟩, by simp⟩

theorem Pending.snoc (h : Pending events t between) (he : ∀ answer, e ≠ .complete t answer) :
    Pending (events ++ [e]) t (between ++ [e]) := by
  obtain ⟨⟨before, rfl, ht⟩, hw⟩ := h
  refine ⟨⟨before, by simp, ht⟩, ?_⟩
  intro answer hmem
  rcases List.mem_append.1 hmem with hmem | hmem
  · exact hw answer hmem
  · exact he answer (List.mem_singleton.1 hmem).symm

theorem Completed.snoc (h : Completed events t between answer) (e : Event) :
    Completed (events ++ [e]) t between answer := by
  obtain ⟨started, later, rfl, hp⟩ := h
  exact ⟨started, later ++ [e], by simp, hp⟩

def Explained (events : List Event) (t : Nat) : Option Progress → Prop
  | none => True
  | some .running => ∃ since, Pending events t since
  | some (.returned _) => ∃ between answer, Completed events t between answer

theorem explained (events : List Event) (t : Nat) :
    Explained events t (Desk.run {} events).queries[t]? := by
  induction events using List.reverseRecOn with
  | nil => trivial
  | append_singleton events e ih =>
    -- what was known of the query before the last event decides what the event can do to it
    rw [run_append, run_cons, run_nil]
    generalize hd : Desk.run {} events = d at ih ⊢
    cases hq : d.queries[t]? with
    | none =>
      rcases unknown_after hq e with hn | ⟨rfl, rfl⟩
      · rw [hn]
        trivial
      · have hr : (d.after .start).queries[d.queries.length]? = some .running := by
          simp [Desk.after]
        rw [hr, ← hd]
        exact ⟨[], .start events⟩
    | some progress =>
      rw [hq] at ih
      cases progress with
      | returned items =>
        obtain ⟨between, answer, h⟩ := ih
        rw [returned_after hq]
        exact ⟨between, answer, h.snoc e⟩
      | running =>
        obtain ⟨since, h⟩ := ih
        by_cases he : ∀ answer, e ≠ .complete t answer
        · obtain ⟨ht, -⟩ := List.getElem?_eq_some_iff.1 hq
          rw [queries_after ht he, hq]
          exact ⟨since ++ [e], h.snoc he⟩
        · obtain ⟨answer, rfl⟩ : ∃ answer, e = .complete t answer := by simpa using he
          obtain ⟨ht, -⟩ := List.getElem?_eq_some_iff.1 hq
          rw [after_complete hq, List.getElem?_set_self ht]
          exact ⟨since, answer, events, [], rfl, h⟩

end Criteria.Session
