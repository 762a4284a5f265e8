import Criteria.Proofs.Suggestion.Histories

/-!
# Deliveries

The functions that ask providers, alone or side by side, only ever start queries and complete
them with what the provider answers. So what is known of all histories is known of them. A
query whose provider fails, or cannot be waited for, has started and never completes.
-/

namespace Criteria.Session

def Delivery.progress : Delivery → Progress
  | .ok items => .returned items
  | .error _ => .running

def Running.progress (r : Running) : Progress :=
  (r.delivery.map Delivery.progress).getD .running

/-- What queries may bring about that are asked under the tickets from a first one on. -/
inductive Asked (first : Nat) (queries : List (Provider × ValueQuery)) : Event → Prop where
  | start : Asked first queries .start
  | complete {i : Nat} {p : Provider} {query : ValueQuery} {answer : Answer} :
      queries[i]? = some (p, query) → p.answer query = .ok answer →
        Asked first queries (.complete (first + i) answer)

def Leads (first : Nat) (queries : List (Provider × ValueQuery)) (d d' : Desk) : Prop :=
  ∃ events, (∀ e ∈ events, Asked first queries e) ∧ d.run events = d'

def Desk.Plays (d : Desk) (queries : List (Provider × ValueQuery)) (s : Session)
    (deliveries : List Delivery) : Prop :=
  Leads d.queries.length queries d ⟨s, d.queries ++ deliveries.map Delivery.progress⟩

variable {s : Session} {d d₁ d₂ : Desk} {first i : Nat} {p : Provider} {query : ValueQuery}
  {queries : List (Provider × ValueQuery)} {r : Running} {front rest : List Progress}

-- ---------------------------------------------------------------------------
-- One query
-- ---------------------------------------------------------------------------

theorem Leads.refl (d : Desk) : Leads first queries d d :=
  ⟨[], by simp, rfl⟩

theorem Leads.trans (h : Leads first queries d d₁) (h' : Leads first queries d₁ d₂) :
    Leads first queries d d₂ := by
  obtain ⟨events, ha, rfl⟩ := h
  obtain ⟨events', ha', rfl⟩ := h'
  refine ⟨events ++ events', ?_, d.run_append events events'⟩
  intro e he
  exact (List.mem_append.1 he).elim (ha e) (ha' e)

theorem Leads.sound (h : Leads first queries d d₁) (hs : d.Sound) : d₁.Sound := by
  obtain ⟨events, -, rfl⟩ := h
  exact hs.run events

theorem start_leads (d : Desk) : Leads first queries d (d.after .start) :=
  ⟨[.start], by simp [Asked.start], rfl⟩

theorem complete_leads (hq : queries[i]? = some (p, query)) (hf : front.length = first + i) :
    Leads first queries ⟨s, front ++ .running :: rest⟩
      ⟨(s.complete p query (first + i)).1,
        front ++ Delivery.progress (s.complete p query (first + i)).2 :: rest⟩ := by
  simp only [complete]
  split
  · exact .refl _
  · rename_i answer ha
    refine ⟨[.complete (first + i) answer], by simp [Asked.complete hq ha], ?_⟩
    simp [Desk.after, Delivery.progress, ← hf]

theorem isCancelled_start_ticket (s : Session) : s.start.1.isCancelled s.start.2 = false :=
  s.isCancelled_start_newest

/-- The first look at the ticket finds it live: nothing happens between it and the start. -/
theorem await_eq (s : Session) (p : Provider) (query : ValueQuery) :
    s.await p query = s.start.1.complete p query s.start.2 := by
  simp [await, awaitWith, isCancelled_start_ticket]

theorem fetch_eq (s : Session) (p : Provider) (query : ValueQuery) :
    s.fetch p query =
      if p.isDeferred then (s.start.1, .error .deferred) else s.await p query := by
  simp [fetch, fetchWith, isCancelled_start_ticket, await_eq]

theorem Desk.Sound.await_leads (h : d.Sound) (hq : queries[i]? = some (p, query))
    (hi : d.queries.length = first + i) :
    Leads first queries d ⟨(d.session.await p query).1,
      d.queries ++ [Delivery.progress (d.session.await p query).2]⟩ := by
  have ticket : d.session.start.2 = first + i := h.aligned.symm.trans hi
  rw [await_eq, ticket]
  exact (start_leads d).trans (complete_leads hq hi)

theorem Desk.Sound.await_plays (h : d.Sound) (p : Provider) (query : ValueQuery) :
    d.Plays [(p, query)] (d.session.await p query).1 [(d.session.await p query).2] :=
  h.await_leads (i := 0) rfl rfl

theorem Desk.Sound.fetch_plays (h : d.Sound) (p : Provider) (query : ValueQuery) :
    d.Plays [(p, query)] (d.session.fetch p query).1 [(d.session.fetch p query).2] := by
  rw [fetch_eq]
  split
  · exact start_leads d
  · exact h.await_plays p query

-- ---------------------------------------------------------------------------
-- Queries side by side
-- ---------------------------------------------------------------------------

def Running.At (first : Nat) (queries : List (Provider × ValueQuery)) (i : Nat) (r : Running) :
    Prop :=
  queries[i]? = some (r.provider, r.query) ∧ r.ticket = first + i

def Placed (first : Nat) (queries : List (Provider × ValueQuery)) : Nat → List Running → Prop
  | _, [] => True
  | i, r :: rs => r.At first queries i ∧ Placed first queries (i + 1) rs

theorem Placed.snoc {rs : List Running} (h : Placed first queries i rs)
    (hr : r.At first queries (i + rs.length)) : Placed first queries i (rs ++ [r]) := by
  induction rs generalizing i with
  | nil => exact ⟨hr, trivial⟩
  | cons _ rs ih =>
    have hl : i + (rs.length + 1) = i + 1 + rs.length := by omega
    exact ⟨h.1, ih h.2 (hl ▸ hr)⟩

theorem Running.At.advance (h : r.At first queries i) (s : Session) (turns : Nat) :
    (s.advance turns r).2.At first queries i := by
  simp only [Session.advance]
  split
  · exact h
  · split <;> exact h

theorem Running.At.advance_leads (h : r.At first queries i) (hf : front.length = first + i)
    (turns : Nat) :
    Leads first queries ⟨s, front ++ r.progress :: rest⟩
      ⟨(s.advance turns r).1, front ++ (s.advance turns r).2.progress :: rest⟩ := by
  simp only [Session.advance]
  split
  · exact .refl _
  · split
    · exact .refl _
    · have running : r.progress = .running := by simp_all [Running.progress]
      rw [running, h.2]
      exact complete_leads h.1 hf

theorem advance_turns (s : Session) (r : Running) :
    ∃ x, (s.advance r.turns r).2.delivery = some x := by
  simp only [advance, Nat.lt_irrefl]
  split
  · exact Option.isSome_iff_exists.1 ‹_›
  · exact ⟨_, rfl⟩

theorem Placed.round_leads {rs : List Running} (s : Session) (front : List Progress)
    (h : Placed first queries i rs) (hf : front.length = first + i) :
    Leads first queries ⟨s, front ++ rs.map Running.progress⟩
      ⟨(s.round rs).1, front ++ (s.round rs).2.map Running.progress⟩ := by
  induction rs generalizing s i front with
  | nil => exact .refl _
  | cons r rs ih =>
    have hl := ih (s.advance 1 r).1 (front ++ [(s.advance 1 r).2.progress]) h.2 (by simp; omega)
    refine (h.1.advance_leads hf 1).trans ?_
    simpa [round] using hl

theorem Placed.round {rs : List Running} (h : Placed first queries i rs) (s : Session) :
    Placed first queries i (s.round rs).2 := by
  induction rs generalizing s i with
  | nil => exact trivial
  | cons r rs ih => exact ⟨h.1.advance s 1, ih h.2 _⟩

@[simp] theorem length_round (s : Session) (rs : List Running) :
    (s.round rs).2.length = rs.length := by
  induction rs generalizing s with
  | nil => rfl
  | cons r rs ih => simp [round, ih]

theorem Placed.finish_leads {rs : List Running} (s : Session) (front : List Progress)
    (h : Placed first queries i rs) (hf : front.length = first + i) :
    Leads first queries ⟨s, front ++ rs.map Running.progress⟩
      ⟨(s.finish rs).1, front ++ (s.finish rs).2.map Delivery.progress⟩ := by
  induction rs generalizing s i front with
  | nil => exact .refl _
  | cons r rs ih =>
    obtain ⟨x, hx⟩ := s.advance_turns r
    have hl := ih (s.advance r.turns r).1 (front ++ [(s.advance r.turns r).2.progress]) h.2
      (by simp; omega)
    refine (h.1.advance_leads hf r.turns).trans ?_
    simpa [finish, Running.progress, hx] using hl

theorem launch_at (hq : queries[i]? = some (p, query)) (ht : s.start.2 = first + i) :
    (s.launch p query).2.At first queries i := by
  simp only [launch]
  split <;> exact ⟨hq, ht⟩

theorem Desk.Sound.launch_leads (h : d.Sound) (hq : queries[i]? = some (p, query))
    (hi : d.queries.length = first + i) :
    Leads first queries d ⟨(d.session.launch p query).1,
      d.queries ++ [(d.session.launch p query).2.progress]⟩ := by
  have awaited := h.await_leads hq hi
  rw [await_eq] at awaited
  simp only [launch]
  split
  · exact start_leads d
  · exact awaited

theorem Placed.raceFrom_leads {base : List Progress} {later : List (Provider × ValueQuery)}
    (s : Session) (rs : List Running) (h : Placed base.length queries 0 rs)
    (hs : Desk.Sound ⟨s, base ++ rs.map Running.progress⟩) (hq : queries.drop rs.length = later) :
    Leads base.length queries ⟨s, base ++ rs.map Running.progress⟩
      ⟨(s.raceFrom rs later).1, base ++ (s.raceFrom rs later).2.map Delivery.progress⟩ := by
  induction later generalizing s rs with
  | nil => exact h.finish_leads s base rfl
  | cons asked later ih =>
    obtain ⟨p, query⟩ := asked
    have hround := h.round_leads s base rfl
    have hs' := hround.sound hs
    have next : queries[rs.length]? = some (p, query) := by
      rw [← List.head?_drop, hq]
      rfl
    have place : (base ++ (s.round rs).2.map Running.progress).length =
        base.length + rs.length := by
      simp
    have hlaunch := hs'.launch_leads next place
    have placed : ((s.round rs).1.launch p query).2.At base.length queries rs.length :=
      launch_at next (hs'.aligned.symm.trans place)
    have hl := ih ((s.round rs).1.launch p query).1
      ((s.round rs).2 ++ [((s.round rs).1.launch p query).2])
      ((h.round s).snoc (by simpa using placed)) (by simpa using hlaunch.sound hs')
      (by simp [← List.drop_drop, hq])
    refine hround.trans (hlaunch.trans ?_)
    simpa [raceFrom] using hl

theorem Desk.Sound.race_plays (h : d.Sound) (queries : List (Provider × ValueQuery)) :
    d.Plays queries (d.session.race queries).1 (d.session.race queries).2 := by
  have start : Placed d.queries.length queries 0 [] := trivial
  simpa [Desk.Plays, race] using start.raceFrom_leads d.session [] (by simpa using h) rfl

-- ---------------------------------------------------------------------------
-- Which queries deliver
-- ---------------------------------------------------------------------------

/-- In every history at most one ticket is live, the last one. A query delivers exactly if
nothing cancelled it between its start and its completion, and then what its provider answered.
The functions that ask providers only add to the history. -/
theorem only_newest_delivers (events : List Event) :
    let d := Desk.run {} events
    (∀ t < d.session.cancelled.length, d.session.isCancelled t = false →
      t + 1 = d.session.cancelled.length) ∧
    (∀ t items, d.queries[t]? = some (.returned items) ↔
      ∃ between answer, Completed events t between answer ∧
        items = if between.any (·.cancels t) || answer.cancels then none else some answer.items) ∧
    (∀ p query, d.Plays [(p, query)] (d.session.fetch p query).1 [(d.session.fetch p query).2]) ∧
    (∀ p query, d.Plays [(p, query)] (d.session.await p query).1 [(d.session.await p query).2]) ∧
    ∀ queries, d.Plays queries (d.session.race queries).1 (d.session.race queries).2 := by
  intro d
  have hs : d.Sound := Desk.Sound.empty.run events
  refine ⟨fun t ht => hs.onlyNewest.eq_newest ht, ?_, hs.fetch_plays, hs.await_plays, hs.race_plays⟩
  intro t items
  constructor
  · intro h
    have known := explained events t
    rw [show (Desk.run {} events).queries[t]? = _ from h] at known
    obtain ⟨between, answer, hc⟩ := known
    refine ⟨between, answer, hc, ?_⟩
    have returned := hc.progress
    rw [show (Desk.run {} events).queries[t]? = _ from h] at returned
    simpa using returned
  · rintro ⟨between, answer, hc, rfl⟩
    exact hc.progress

end Criteria.Session
