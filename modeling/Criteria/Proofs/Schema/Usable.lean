import Criteria.Proofs.Schema.Loaded
import Criteria.Proofs.Suggestion.Search
import Criteria.Proofs.Validation.Findings
import Criteria.Proofs.Validation.SelfCheck

/-!
# What a schema from a configuration can be used for

A configuration may give values of any kind as default operators, descriptions, symbols and
labels. The checks and the suggestions take texts there, so they answer where the values that
they come across are texts, or are left out, and where no number is too long to be written.
-/

namespace Criteria

namespace Schema

/-- The check of the schema can word its findings, and it can look for each default operator. -/
structure ReportsItself (s : Schema) : Prop where
  limit : ∀ limit, s.maxExpressions = some limit → limit < 1 → ¬ (Data.int limit).Oversized
  defaults : ∀ f ∈ s.fields, f.DefaultNamed

structure Reports (s : Schema) (es : Filter) : Prop where
  limit : ∀ limit, s.maxExpressions = some limit → limit < (es.length : Int) →
    ¬ (Data.int limit).Oversized
  values : ∀ e ∈ es, ¬ s.CannotReport e

variable {s : Schema}

theorem Plain.answers_selfCheck (hs : s.Plain) : Answers s.selfCheck ↔ s.ReportsItself := by
  rw [Schema.answers_selfCheck, forall_prop_of_true hs.nonempty]
  constructor
  · rintro ⟨hlimit, hdefaults⟩
    exact ⟨hlimit, fun f hf => hdefaults f hf (hs.fields f hf).nonempty⟩
  · rintro ⟨hlimit, hdefaults⟩
    exact ⟨hlimit, fun f hf _ => hdefaults f hf⟩

/-- When the checks and the suggestions of a schema from a configuration answer. -/
theorem ofData_answers_iff (h : Schema.ofData d = .ok s) :
    (Answers s.selfCheck ↔ s.ReportsItself) ∧
    (∀ es, Answers (s.validate es) ↔ s.Reports es) ∧
    (∀ (st : State) (input : String), Answers (st.suggest s input) ↔
      Item.needle input = [] ∨ ∀ item ∈ st.choices s, item.Searchable (Item.needle input)) ∧
    ∀ f ∈ s.fields, ∀ p, f.provider = some p → ∃ entries, p = .choices entries ∧
      ∀ query, (∃ items, p.fetch query = .ok (some items)) ↔
        Item.needle query.input = [] ∨ ∀ e ∈ entries, ∃ name, e.2 = .text name := by
  have hs := Schema.ofData_plain h
  refine ⟨hs.answers_selfCheck, fun es => ?_, fun st input => State.answers_suggest, ?_⟩
  · rw [answers_validate]
    exact ⟨fun ⟨hlimit, hvalues⟩ => ⟨hlimit, hvalues⟩, fun ⟨hlimit, hvalues⟩ => ⟨hlimit, hvalues⟩⟩
  · intro f hf p hp
    obtain ⟨entries, rfl⟩ := (hs.fields f hf).provider p hp
    exact ⟨entries, rfl, fun query => Provider.fetch_choices_iff⟩

theorem ofData_answers_typed :
    let config : Data := .record [(.text "fields", .list [.record [(.text "key", .text "status"),
      (.text "label", .text "Status"), (.text "default_operator", .text "eq"),
      (.text "description", .text "The state"), (.text "values", .list [.int 1, .text "x"])]])]
    ∃ s, Schema.ofData config = .ok s ∧ Answers s.selfCheck ∧
      (∀ input, Answers ((State.selectingField [] none).suggest s input)) ∧
      ∀ p, s.fields.map (·.provider) = [some p] →
        ∀ query, ∃ items, p.fetch query = .ok (some items) := by
  intro config
  have h : Schema.ofData config = .ok _ := rfl
  obtain ⟨hself, -, hsuggest, hfetch⟩ := ofData_answers_iff h
  refine ⟨_, h, hself.mpr ⟨nofun, ?_⟩, fun input => (hsuggest _ input).mpr (.inr ?_), ?_⟩
  · exact List.forall_mem_singleton.mpr ⟨.inl rfl, nofun⟩
  · exact List.forall_mem_singleton.mpr (.texts rfl (.inr ⟨_, rfl⟩))
  · rintro p ⟨⟩ query
    obtain ⟨entries, hp, hiff⟩ := hfetch _ (.head _) _ rfl
    cases hp
    exact (hiff query).mpr (.inr
      (List.forall_mem_cons.mpr ⟨⟨_, rfl⟩, List.forall_mem_singleton.mpr ⟨_, rfl⟩⟩))

/-- A list cannot be looked for among keys, and a number mentions nothing. -/
theorem ofData_stops_at_untyped :
    let config : Data := .record [(.text "fields", .list [.record [(.text "key", .text "status"),
      (.text "label", .text "Status"), (.text "default_operator", .list [.text "eq"]),
      (.text "description", .int 5), (.text "values", .record [(.text "a", .int 5)])]])]
    ∃ s p, Schema.ofData config = .ok s ∧ s.selfCheck = .error .wrongKind ∧
      (State.selectingField [] none).suggest s "x" = .error .notText ∧
      s.fields.map (·.provider) = [some p] ∧
        p.fetch { input := "x", schema := s.info } = .error (.fault .notText) :=
  ⟨_, _, rfl, rfl, rfl, rfl, rfl⟩

end Schema

end Criteria
