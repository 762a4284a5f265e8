import Criteria.Wire.Query
import Criteria.Proofs.Filter.Joined
import Criteria.Proofs.Form.Pairs

/-!
# Query strings and back

Of an expression a query string keeps the key of the field and the stored form of the value.
`Schema.guess?` is what can be made of these two: the field as the schema has it, the first
operator of the field, and the text as the value. Operators and connectors that were chosen
are lost; no pair is.
-/

namespace Criteria

namespace Schema

def guess? (s : Schema) (e : Expression) : Option Condition := do
  let field ← s.field? e.field.key
  let op ← field.operators.head?
  return ⟨field.ref, op.ref, ⟨.text e.value.wire, e.value.wire, e.value.wire⟩⟩

def refusal (s : Schema) (e : Expression) : RestoreCause :=
  if (s.field? e.field.key).isNone then .entry (.unknownField e.field.key)
  else .noOperators e.field.key

/-- What restoring the query string of a filter gives: one outcome for each expression, and a
connector everywhere but at the end. -/
structure RestoresPairs (s : Schema) (es : Filter) (r : Restoration) : Prop where
  conditions : r.expressions.map (·.condition) = es.filterMap s.guess?
  errors : r.errors = (es.zipIdx.filter fun p => (s.guess? p.1).isNone).map fun p =>
    { index := some p.2, cause := s.refusal p.1, field := some p.1.field.key }
  length : r.expressions.length + r.errors.length = es.length
  connectors : ∀ k e, r.expressions[k]? = some e →
    e.connector = if k + 1 = r.expressions.length then none else some Connector.implied

end Schema

variable {s : Schema} {e : Expression} {es : Filter} {k : Nat}

namespace Query

def guessed? (s : Schema) (e : Expression) : Option Expression :=
  (s.guess? e).map (⟨·, some Connector.implied⟩)

def refusals (s : Schema) (i : Nat) (es : Filter) : List RestoreError :=
  ((es.zipIdx i).filter fun p => (s.guess? p.1).isNone).map fun p =>
    { index := some p.2, cause := s.refusal p.1, field := some p.1.field.key }

-- ---------------------------------------------------------------------------
-- Pairs
-- ---------------------------------------------------------------------------

theorem restorePair_some (h : s.guess? e = some condition) :
    restorePair s (e.field.key, e.value.wire) = .ok ⟨condition, some Connector.implied⟩ := by
  obtain ⟨field, hfield, h⟩ := Option.bind_eq_some_iff.mp h
  obtain ⟨op, hop, h⟩ := Option.bind_eq_some_iff.mp h
  obtain ⟨rest, hops⟩ := List.head?_eq_some_iff.mp hop
  cases h
  simp only [restorePair, hfield, hops]

theorem restorePair_none (h : s.guess? e = none) :
    restorePair s (e.field.key, e.value.wire) = .error (s.refusal e) := by
  cases hfield : s.field? e.field.key with
  | none => simp [restorePair, Schema.refusal, hfield]
  | some field =>
    cases hops : field.operators with
    | nil => simp [restorePair, Schema.refusal, hfield, hops]
    | cons op rest => simp [Schema.guess?, hfield, hops] at h

theorem restoreFrom_queryPairs (s : Schema) (i : Nat) (es : Filter) :
    restoreFrom s i es.queryPairs = (es.filterMap (guessed? s), refusals s i es) := by
  induction es generalizing i with
  | nil => rfl
  | cons e es ih =>
    have hcons : Filter.queryPairs (e :: es) =
        (e.field.key, e.value.wire) :: Filter.queryPairs es := rfl
    rw [hcons, restoreFrom, ih]
    cases h : s.guess? e with
    | some condition => simp [restorePair_some h, guessed?, refusals, h]
    | none => simp [restorePair_none h, guessed?, refusals, h]

theorem map_condition_guessed (s : Schema) (es : Filter) :
    (es.filterMap (guessed? s)).map (·.condition) = es.filterMap s.guess? := by
  rw [List.map_filterMap]
  simp [guessed?, Function.comp_def]

theorem connector_of_mem_guessed (h : e ∈ es.filterMap (guessed? s)) :
    e.connector = some Connector.implied := by
  obtain ⟨_, -, he⟩ := List.mem_filterMap.mp h
  obtain ⟨condition, -, rfl⟩ := Option.map_eq_some_iff.mp he
  rfl

theorem connector_joined_guessed (h : (Filter.joined (es.filterMap (guessed? s)))[k]? = some e) :
    e.connector = if k + 1 = (es.filterMap (guessed? s)).length then none
      else some Connector.implied := by
  have hk := Filter.getElem?_joined (es.filterMap (guessed? s)) k
  rw [h, Option.map_some] at hk
  obtain ⟨e', he', hc⟩ := Option.map_eq_some_iff.mp hk.symm
  rw [connector_of_mem_guessed (List.mem_of_getElem? he')] at hc
  exact hc.symm

theorem length_guessed_refusals (s : Schema) (i : Nat) (es : Filter) :
    (es.filterMap (guessed? s)).length + (refusals s i es).length = es.length := by
  induction es generalizing i with
  | nil => rfl
  | cons e es ih =>
    have hi := ih (i + 1)
    cases h : s.guess? e with
    | some condition =>
      have hmore : (guessed? s e) = some ⟨condition, some Connector.implied⟩ := by
        simp [guessed?, h]
      have hsame : refusals s i (e :: es) = refusals s (i + 1) es := by simp [refusals, h]
      rw [hsame, List.filterMap_cons_some hmore, List.length_cons, List.length_cons]
      omega
    | none =>
      have hsame : (guessed? s e) = none := by simp [guessed?, h]
      have hmore : (refusals s i (e :: es)).length = (refusals s (i + 1) es).length + 1 := by
        simp [refusals, h]
      rw [hmore, List.filterMap_cons_none hsame, List.length_cons]
      omega

-- ---------------------------------------------------------------------------
-- Queries
-- ---------------------------------------------------------------------------

theorem body_toQuery (n : Nat) (es : Filter) :
    body (String.ofList (List.replicate n '?') ++ es.toQuery) = Form.writeChars es.queryPairs := by
  have hmarks (c : Char) (hc : c ∈ List.replicate n '?') : (c == '?') = true :=
    beq_iff_eq.mpr (List.eq_of_mem_replicate hc)
  have hfirst (c : Char) (hc : c ∈ Form.writeChars es.queryPairs) : (c == '?') = false := by
    rw [beq_eq_false_iff_ne]
    rintro rfl
    exact Form.not_mem_writeChars (by decide) (by decide) (by decide) hc
  rw [body, String.toList_append, String.toList_ofList, List.dropWhile_append_of_pos hmarks,
    Filter.toQuery, Form.write, String.toList_ofList]
  cases hchars : Form.writeChars es.queryPairs with
  | nil => rfl
  | cons c rest => rw [List.dropWhile_cons, hfirst c (hchars ▸ List.mem_cons_self)]; rfl

theorem restoreQuery_eq (s : Schema) (es : Filter) (n : Nat) :
    s.restoreQuery (String.ofList (List.replicate n '?') ++ es.toQuery) =
      .ofParts (es.filterMap (guessed? s)) (refusals s 0 es) := by
  rw [Schema.restoreQuery, body_toQuery, Form.readChars_writeChars, restoreFrom_queryPairs]

end Query

/-- A filter read back from its query string, with any number of question marks in front. -/
theorem restoreQuery_toQuery (s : Schema) (es : Filter) (n : Nat) :
    s.RestoresPairs es
      (s.restoreQuery (String.ofList (List.replicate n '?') ++ es.toQuery)) := by
  rw [Query.restoreQuery_eq]
  have hlength : (Filter.joined (es.filterMap (Query.guessed? s))).length =
      (es.filterMap (Query.guessed? s)).length := Filter.length_joined
  constructor
  case conditions => exact Filter.map_condition_joined.trans (Query.map_condition_guessed s es)
  case errors => rfl
  case length =>
    rw [← Query.length_guessed_refusals s 0 es, ← hlength]
    rfl
  case connectors =>
    intro k e he
    rw [Query.connector_joined_guessed he, ← hlength]
    rfl

end Criteria
