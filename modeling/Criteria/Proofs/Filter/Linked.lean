import Criteria.Expression

/-!
# Linked filters

Where the connectors of a filter stand. A filter on its own has one after every expression
but the last (`Linked`). While the next expression is being chosen, the last one carries the
connector that joins them (`Awaits`). Both only look at the connectors, and every operation
on filters is described by what it does to them.
-/

namespace Criteria

theorem Expression.withConnector_withConnector (e : Expression) :
    (e.withConnector c).withConnector d = e.withConnector d := rfl

@[simp] theorem Expression.withConnector_connector (e : Expression) :
    (e.withConnector c).connector = c := rfl

@[simp] theorem Expression.withConnector_condition (e : Expression) :
    (e.withConnector c).condition = e.condition := rfl

@[simp] theorem Expression.withConnector_self (e : Expression) :
    e.withConnector e.connector = e := rfl

theorem Connector.ofData?_text {c : Connector} (h : c ∈ Connector.all) :
    Connector.ofData? (.text c) = some c := by
  simp [Connector.ofData?, Connector.isKnown, h]

namespace Filter

def connectors (es : Filter) : List (Option Connector) := es.map (·.connector)

def Connected (es : Filter) : Prop := ∀ e ∈ es.dropLast, e.connector ≠ none

/-- A filter as it stands on its own: connected, and no connector at its end. -/
structure Linked (es : Filter) : Prop where
  connected : es.Connected
  last : es.lastConnector? = none

/-- A filter that the next expression will be joined to by `pending`. Only in front of the
first expression there is nothing to join. -/
structure Awaits (es : Filter) (pending : Option Connector) : Prop where
  connected : es.Connected
  last : es.lastConnector? = pending
  unjoined : pending = none ↔ es = []

variable {es front : Filter} {e last : Expression} {c d : Option Connector}

theorem eq_nil_or_append (es : Filter) : es = [] ∨ ∃ front last, es = front ++ [last] := by
  rcases List.eq_nil_or_concat es with h | ⟨front, last, h⟩
  · exact .inl h
  · exact .inr ⟨front, last, h.trans List.concat_eq_append⟩

theorem linked_nil : Linked [] := ⟨by simp [Connected], rfl⟩

theorem awaits_nil : Awaits [] none := ⟨by simp [Connected], rfl, by simp⟩

@[simp] theorem connected_concat :
    Connected (front ++ [last]) ↔ ∀ e ∈ front, e.connector ≠ none := by
  simp [Connected]

theorem connected_cons (h : es ≠ []) :
    Connected (e :: es) ↔ e.connector ≠ none ∧ Connected es := by
  simp [Connected, List.dropLast_cons_of_ne_nil h]

@[simp] theorem lastConnector?_concat : lastConnector? (front ++ [last]) = last.connector := by
  simp [lastConnector?]

@[simp] theorem linked_concat :
    Linked (front ++ [last]) ↔ (∀ e ∈ front, e.connector ≠ none) ∧ last.connector = none :=
  ⟨fun h => ⟨connected_concat.mp h.connected, lastConnector?_concat.symm.trans h.last⟩,
    fun h => ⟨connected_concat.mpr h.1, lastConnector?_concat.trans h.2⟩⟩

theorem awaits_nil_iff : Awaits [] c ↔ c = none :=
  ⟨fun h => h.unjoined.mpr rfl, fun h => h ▸ awaits_nil⟩

theorem awaits_concat : Awaits (front ++ [last]) c ↔
    Connected (front ++ [last]) ∧ last.connector = c ∧ c ≠ none := by
  constructor
  · rintro ⟨hc, rfl, hu⟩
    simpa using ⟨connected_concat.mp hc, fun hn => by simpa using hu.mp (by simpa using hn)⟩
  · rintro ⟨hc, rfl, hn⟩
    exact ⟨hc, lastConnector?_concat, by simp [hn]⟩

theorem linked_singleton : Linked [last] ↔ last.connector = none := by
  simpa using @linked_concat [] last

theorem lastConnector?_cons (h : es ≠ []) : lastConnector? (e :: es) = lastConnector? es := by
  simp [lastConnector?, List.getLast?_cons, List.getLast?_eq_some_getLast h]

theorem linked_cons (h : es ≠ []) : Linked (e :: es) ↔ e.connector ≠ none ∧ Linked es := by
  constructor
  · rintro ⟨hc, hl⟩
    obtain ⟨he, hc⟩ := (connected_cons h).mp hc
    exact ⟨he, hc, (lastConnector?_cons h).symm.trans hl⟩
  · rintro ⟨he, hc, hl⟩
    exact ⟨(connected_cons h).mpr ⟨he, hc⟩, (lastConnector?_cons h).trans hl⟩

-- ---------------------------------------------------------------------------
-- Only the connectors count
-- ---------------------------------------------------------------------------

theorem connected_iff_connectors : Connected es ↔ none ∉ (connectors es).dropLast := by
  simp only [Connected, connectors, ← List.map_dropLast, List.mem_map, not_exists, not_and]

theorem lastConnector?_eq_connectors : lastConnector? es = (connectors es).getLast?.join := by
  simp only [lastConnector?, connectors, List.getLast?_map]
  cases es.getLast? <;> rfl

theorem eq_nil_iff_of_connectors (h : connectors front = connectors es) :
    front = [] ↔ es = [] := by
  rw [← List.length_eq_zero_iff, ← List.length_eq_zero_iff]
  simpa [connectors] using congrArg (List.length · = 0) h

theorem Linked.congr (hl : Linked es) (h : connectors front = connectors es) : Linked front where
  connected := by rw [connected_iff_connectors, h, ← connected_iff_connectors]; exact hl.connected
  last := by rw [lastConnector?_eq_connectors, h, ← lastConnector?_eq_connectors]; exact hl.last

theorem Awaits.congr (ha : Awaits es c) (h : connectors front = connectors es) :
    Awaits front c where
  connected := by rw [connected_iff_connectors, h, ← connected_iff_connectors]; exact ha.connected
  last := by rw [lastConnector?_eq_connectors, h, ← lastConnector?_eq_connectors]; exact ha.last
  unjoined := ha.unjoined.trans (eq_nil_iff_of_connectors h).symm

theorem connectors_set (hi : es[i]? = some e) (h : last.connector = e.connector) :
    connectors (es.set i last) = connectors es := by
  obtain ⟨hlt, rfl⟩ := List.getElem?_eq_some_iff.mp hi
  have hc : (connectors es).get ⟨i, by simpa [connectors] using hlt⟩ = last.connector := by
    simp [connectors, h]
  rw [connectors, List.map_set, ← hc]
  exact List.set_getElem_self _

-- ---------------------------------------------------------------------------
-- Link problems
-- ---------------------------------------------------------------------------

theorem linkProblemFrom?_eq_none_iff : linkProblemFrom? i es = none ↔ Linked es := by
  fun_induction linkProblemFrom? i es with
  | case1 => simpa using linked_nil
  | case2 i last => simp [linked_singleton]
  | case3 i e rest hne hgap =>
    have hgap : e.connector = none := by simpa using hgap
    simp [linked_cons (e := e) (by simpa using hne), hgap]
  | case4 i e rest hne hgap ih =>
    have hgap : e.connector ≠ none := by simpa using hgap
    simp [linked_cons (e := e) (by simpa using hne), hgap, ih]

/-- Loading refuses exactly the filters that are not linked. -/
theorem linkProblem?_eq_none_iff : linkProblem? es = none ↔ Linked es :=
  linkProblemFrom?_eq_none_iff

-- ---------------------------------------------------------------------------
-- Another connector at the end
-- ---------------------------------------------------------------------------

@[simp] theorem withLast_nil : withLast c [] = [] := rfl

@[simp] theorem withLast_concat :
    withLast c (front ++ [last]) = front ++ [last.withConnector c] := by
  induction front with
  | nil => rfl
  | cons e front ih =>
    rw [List.cons_append, withLast.eq_3 _ _ _ (by simp), ih, List.cons_append]

theorem withLast_ne_nil (h : es ≠ []) : withLast c es ≠ [] := by
  rcases eq_nil_or_append es with rfl | ⟨front, last, rfl⟩
  · exact absurd rfl h
  · simp

@[simp] theorem length_withLast (es : Filter) (c : Option Connector) :
    (es.withLast c).length = es.length := by
  rcases eq_nil_or_append es with rfl | ⟨front, last, rfl⟩ <;> simp

@[simp] theorem withLast_withLast : withLast d (withLast c es) = withLast d es := by
  rcases eq_nil_or_append es with rfl | ⟨front, last, rfl⟩
  · rfl
  · simp [Expression.withConnector_withConnector]

theorem withLast_lastConnector? : withLast (lastConnector? es) es = es := by
  rcases eq_nil_or_append es with rfl | ⟨front, last, rfl⟩
  · rfl
  · simp

theorem Linked.withLast_none (h : Linked es) : es.withLast none = es := by
  rw [← h.last, withLast_lastConnector?]

theorem Awaits.withLast_pending (h : Awaits es c) : es.withLast c = es := by
  rw [← h.last, withLast_lastConnector?]

theorem map_condition_withLast : (withLast c es).map (·.condition) = es.map (·.condition) := by
  rcases eq_nil_or_append es with rfl | ⟨front, last, rfl⟩
  · rfl
  · simp

theorem map_key_withLast :
    (withLast c es).map (·.field.key) = es.map (·.field.key) := by
  rcases eq_nil_or_append es with rfl | ⟨front, last, rfl⟩
  · rfl
  · simp [Expression.field]

theorem Connected.withLast (h : Connected es) : Connected (withLast c es) := by
  rcases eq_nil_or_append es with rfl | ⟨front, last, rfl⟩
  · exact h
  · simpa using h

theorem Connected.linked_withLast (h : Connected es) : Linked (Filter.withLast none es) := by
  rcases eq_nil_or_append es with rfl | ⟨front, last, rfl⟩
  · exact linked_nil
  · simpa using h

theorem Connected.awaits_withLast (h : Connected es) (hne : es ≠ []) :
    Awaits (Filter.withLast (some pending) es) (some pending) := by
  rcases eq_nil_or_append es with rfl | ⟨front, last, rfl⟩
  · exact absurd rfl hne
  · exact ⟨by simpa using h, by simp, by simp⟩

-- ---------------------------------------------------------------------------
-- An expression replaced or removed
-- ---------------------------------------------------------------------------

theorem Awaits.joined (h : Awaits es c) : ∀ e ∈ es, e.connector ≠ none := by
  rcases eq_nil_or_append es with rfl | ⟨front, last, rfl⟩
  · simp
  · obtain ⟨hc, rfl, hu⟩ := h
    simp only [connected_concat, lastConnector?_concat, List.mem_append,
      List.mem_singleton] at hc hu ⊢
    rintro e (he | rfl)
    · exact hc e he
    · exact fun hn => by simpa using hu.mp hn

theorem awaits_of_joined (h : ∀ e ∈ es, e.connector ≠ none) : Awaits es (lastConnector? es) := by
  rcases eq_nil_or_append es with rfl | ⟨front, last, rfl⟩
  · exact awaits_nil
  · simp only [List.mem_append, List.mem_singleton] at h
    refine ⟨by simpa using fun e he => h e (.inl he), rfl, ?_⟩
    simpa using h last (.inr rfl)

theorem Awaits.set (h : Awaits es c) (hn : e.connector ≠ none) :
    Awaits (es.set i e) (lastConnector? (es.set i e)) := by
  refine awaits_of_joined fun x hx => ?_
  rcases List.mem_or_eq_of_mem_set hx with hx | rfl
  · exact h.joined x hx
  · exact hn

theorem Linked.set (h : Linked es) (hi : es[i]? = some last) (hl : last.connector ≠ none)
    (hn : e.connector ≠ none) : Linked (es.set i e) := by
  rcases eq_nil_or_append es with rfl | ⟨front, end_, rfl⟩
  · exact h
  · obtain ⟨hf, hend⟩ := linked_concat.mp h
    rcases Nat.lt_or_ge i front.length with hlt | hge
    · rw [List.set_append_left _ _ hlt, linked_concat]
      refine ⟨fun x hx => ?_, hend⟩
      rcases List.mem_or_eq_of_mem_set hx with hx | rfl
      · exact hf x hx
      · exact hn
    · rw [List.getElem?_append_right hge, List.getElem?_singleton] at hi
      split at hi
      · exact absurd (Option.some.inj hi ▸ hend) hl
      · cases hi

theorem Connected.eraseIdx (h : Connected es) : Connected (es.eraseIdx i) := by
  rcases eq_nil_or_append es with rfl | ⟨front, last, rfl⟩
  · exact h
  · simp only [connected_concat] at h ⊢
    rw [List.eraseIdx_append]
    split
    · exact connected_concat.mpr fun e he => h e (List.mem_of_mem_eraseIdx he)
    · cases i - front.length with
      | zero => simpa [Connected] using fun e he => h e (List.dropLast_subset _ he)
      | succ n => simpa using h

theorem Awaits.eraseIdx (h : Awaits es c) :
    Awaits (Filter.withLast c (es.eraseIdx i))
      (lastConnector? (Filter.withLast c (es.eraseIdx i))) := by
  cases hc : c with
  | none =>
    obtain rfl := h.unjoined.mp hc
    exact awaits_nil
  | some pending =>
    refine awaits_of_joined ?_
    -- All that stay had a connector; the last of them gets the pending one.
    have hj : ∀ e ∈ es.eraseIdx i, e.connector ≠ none :=
      fun e he => h.joined e (List.mem_of_mem_eraseIdx he)
    rcases eq_nil_or_append (es.eraseIdx i) with hr | ⟨front, last, hr⟩ <;> rw [hr] at hj ⊢
    · simp
    · simp only [withLast_concat, List.mem_append, List.mem_singleton] at hj ⊢
      rintro e (he | rfl)
      · exact hj e (.inl he)
      · simp

end Filter

end Criteria
