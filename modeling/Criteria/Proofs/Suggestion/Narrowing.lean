import Mathlib.Data.List.Basic
import Criteria.Proofs.Suggestion.Offers
import Criteria.Proofs.Suggestion.Search
import Criteria.Proofs.Text.Growing

/-!
# Typing narrows

Before anything is typed everything is offered, and whatever is typed next only takes items away:
those that are left stand in the order in which they stood, and none comes back (`Narrows`). What is
searched for grows with what was typed, so an item that mentions more mentions less as well. The
narrowing never depends on what the descriptions are. Where they are texts or left out, every search
has an answer.
-/

namespace Criteria

/-- With nothing typed everything is offered, with `t` typed a part of it, and with `s` typed after
that a part of what `t` left. If the longer text can be searched for, so can the shorter. -/
structure Narrows (answer : String → Except Fault (List Item)) (all : List Item) (t s : String) :
    Prop where
  untyped : answer "" = .ok all
  typed : ∀ kept, answer t = .ok kept → kept.Sublist all
  continued : ∀ fewer, answer (t ++ s) = .ok fewer →
    ∃ kept, answer t = .ok kept ∧ fewer.Sublist kept

/-- What the items of a step show as descriptions is text, where there is any: the descriptions of
the fields, or the symbols of the operators. -/
structure Schema.DescribedIn (s : Schema) (step : Step) : Prop where
  fields : step = .selectingField →
    ∀ f ∈ s.fields, f.description = .null ∨ ∃ text, f.description = .text text
  operators : step = .selectingOperator →
    ∀ f ∈ s.fields, ∀ op ∈ f.operators, op.symbol = .null ∨ ∃ text, op.symbol = .text text

-- ---------------------------------------------------------------------------
-- What an item mentions
-- ---------------------------------------------------------------------------

namespace Item

variable {item : Item} {items all kept : List Item} {needle longer : List Char} {d : Data}

theorem holds_of_within (h : needle <:+: longer) (hd : holds longer d = true) :
    holds needle d = true := by
  cases d with
  | text text => exact Text.occursIn_iff.mpr (h.trans (Text.occursIn_iff.mp hd))
  | _ => cases hd

theorem isFound_of_within (h : needle <:+: longer) (hi : item.isFound longer = true) :
    item.isFound needle = true := by
  rw [isFound, Bool.or_eq_true] at hi ⊢
  exact hi.imp (holds_of_within h) (holds_of_within h)

theorem Searchable.of_within (h : needle <:+: longer) (hs : item.Searchable longer) :
    item.Searchable needle := by
  cases hs with
  | mentioned hl hm => exact .mentioned hl (Text.occursIn_iff.mpr (h.trans (Text.occursIn_iff.mp hm)))
  | texts hl hd => exact .texts hl hd

-- ---------------------------------------------------------------------------
-- What is searched for
-- ---------------------------------------------------------------------------

theorem needle_prefix (ht : 'Σ' ∉ t.toList) (hne : Item.needle t ≠ []) :
    Item.needle t <+: Item.needle (t ++ s) := by
  have hstrip : Text.strip t.toList ≠ [] := fun h => hne (congrArg Text.lower h)
  obtain ⟨more, hmore⟩ := @Text.strip_prefix_strip_append _ s.toList hstrip
  have hsigma : 'Σ' ∉ Text.strip t.toList := mt (Text.strip_sublist t.toList).mem ht
  rw [Item.needle, Item.needle, String.toList_append, ← hmore]
  exact Text.lower_prefix_append hsigma

theorem narrow_narrows (ht : 'Σ' ∉ t.toList) (items : List Item) (s : String) :
    Narrows (narrow items) items t s where
  untyped := narrow_of_needle_nil rfl
  typed _ := narrow_sublist
  continued fewer h := by
    by_cases hnil : Item.needle t = []
    · exact ⟨items, narrow_of_needle_nil hnil, narrow_sublist h⟩
    · have hbegins : Item.needle t <+: Item.needle (t ++ s) := needle_prefix ht hnil
      obtain ⟨hs, rfl⟩ := (narrow_ok_iff (hbegins.ne_nil hnil)).mp h
      refine ⟨_, narrow_ok hnil fun item hi => (hs item hi).of_within hbegins.isInfix, ?_⟩
      exact List.monotone_filter_right _ fun item => isFound_of_within hbegins.isInfix

end Item

-- ---------------------------------------------------------------------------
-- Steps and fixed choices
-- ---------------------------------------------------------------------------

variable {schema : Schema} {st : State} {item : Item} {entries : List (Data × Data)}

theorem Schema.DescribedIn.searchable (hd : schema.DescribedIn st.step)
    (hi : item ∈ st.choices schema) : item.Searchable needle := by
  cases st with
  | idle | enteringValue => cases hi
  | selectingField es pending =>
    obtain ⟨f, hf, rfl⟩ := List.mem_map.mp hi
    exact .texts rfl (hd.fields rfl f hf)
  | selectingOperator es pending chosen =>
    cases chosen with
    | none => cases hi
    | some chosen =>
      simp only [State.choices] at hi
      split at hi
      next f hf =>
        obtain ⟨op, hop, rfl⟩ := List.mem_map.mp hi
        exact .texts rfl (hd.operators rfl f (List.mem_of_find?_eq_some hf) op
          (f.offered_perm.mem_iff.mp hop))
      · cases hi
  | selectingConnector es =>
    cases es with
    | nil => cases hi
    | cons =>
      obtain ⟨c, -, rfl⟩ := List.mem_map.mp hi
      exact .texts rfl (.inl rfl)

theorem Provider.items_answer_choices (query : ValueQuery) :
    (·.items) <$> (choices entries).answer query = Item.narrow (choiceItems entries) query.input := by
  cases h : Item.narrow (choiceItems entries) query.input with
  | ok items => exact map_ok.mpr ⟨{ items }, bind_ok.mpr ⟨items, h, rfl⟩, rfl⟩
  | error f => exact map_error.mpr (bind_error_first h)

/-- In every step, and among fixed choices, typing more only narrows what is suggested, and with
nothing typed everything is offered. There is an answer to every text if descriptions and labels are
texts. -/
theorem typing_narrows (ht : 'Σ' ∉ t.toList) (s : String) :
    (∀ (st : State) (schema : Schema), ∃ all, st.Offers schema all ∧
      Narrows (fun input => st.suggest schema input) all t s ∧
      (schema.DescribedIn st.step → ∀ input, Answers (st.suggest schema input))) ∧
    ∀ (entries : List (Data × Data)) (query : ValueQuery),
      Narrows (fun input => (·.items) <$> (Provider.choices entries).answer { query with input })
        (Provider.choiceItems entries) t s ∧
      ((∀ e ∈ entries, ∃ name, e.2 = .text name) →
        ∀ input, Answers ((Provider.choices entries).answer { query with input })) := by
  refine ⟨fun st schema => ⟨_, st.offers_choices schema, Item.narrow_narrows ht _ s, ?_⟩,
    fun entries query => ⟨?_, fun hlabels input => ?_⟩⟩
  · intro hd input
    exact State.answers_suggest.mpr (.inr fun item hi => hd.searchable hi)
  · simp only [Provider.items_answer_choices]
    exact Item.narrow_narrows ht _ s
  · refine answers_bind_pure.mpr (Item.answers_narrow.mpr (.inr ?_))
    exact List.forall_mem_map.mpr fun e he => Provider.searchable_choice.mpr (hlabels e he)

/-- The operators of a field, of which the second is the default one, while " Is NOT " is typed, and
two fixed choices. -/
theorem typing_narrows_negation :
    let operators : List Operator :=
      [{ key := "eq", label := "is", symbol := .text "=" }, { key := "ne", label := "is not" },
        { key := "gt", label := "above" }]
    let field : Field :=
      { key := "status", label := "Status", defaultOperator := .text "ne", operators }
    let schema : Schema := { fields := [field] }
    let st : State := .selectingOperator [] none (some field.ref)
    let entries : List (Data × Data) := [(.int 1, .text "This"), (.int 2, .text "is nothing")]
    let query : ValueQuery := { input := "", schema := schema.info }
    let chosen : String → Except Fault (List Item) := fun input =>
      (·.items) <$> (Provider.choices entries).answer { query with input }
    'Σ' ∉ " Is".toList ∧ schema.DescribedIn st.step ∧ (∀ e ∈ entries, ∃ name, e.2 = .text name) ∧
      ∃ all kept fewer values fewerValues, st.Offers schema all ∧
        st.suggest schema " Is" = .ok kept ∧ st.suggest schema (" Is" ++ " NOT ") = .ok fewer ∧
        chosen " Is" = .ok values ∧ chosen (" Is" ++ " NOT ") = .ok fewerValues ∧
        all.map (·.key) = [.text "ne", .text "eq", .text "gt"] ∧
        kept.map (·.key) = [.text "ne", .text "eq"] ∧ fewer.map (·.key) = [.text "ne"] ∧
        values.map (·.key) = [.int 1, .int 2] ∧ fewerValues.map (·.key) = [.int 2] ∧
        kept.Sublist all ∧ fewer.Sublist kept ∧ fewerValues.Sublist values ∧
        ∀ input, Answers (st.suggest schema input) ∧ Answers (chosen input) := by
  intro operators field schema st entries query chosen
  have ht : 'Σ' ∉ " Is".toList := by decide
  have hd : schema.DescribedIn st.step := ⟨nofun, fun _ => by simp [schema, field, operators]⟩
  have hlabels : ∀ e ∈ entries, ∃ name, e.2 = .text name := by simp [entries]
  obtain ⟨hsteps, hchoices⟩ := typing_narrows ht " NOT "
  obtain ⟨all, hoffers, hnarrows, hanswers⟩ := hsteps st schema
  obtain ⟨hvalues, hfound⟩ := hchoices entries query
  have hall : st.suggest schema "" = .ok _ := rfl
  obtain rfl := Except.ok.inj (hall.symm.trans hnarrows.untyped)
  have hfewer : st.suggest schema (" Is" ++ " NOT ") = .ok _ := rfl
  obtain ⟨kept, hkept, hsub⟩ := hnarrows.continued _ hfewer
  have hnarrow (input : String) :
      chosen input = Item.narrow (Provider.choiceItems entries) input :=
    Provider.items_answer_choices _
  have hfewerValues : chosen (" Is" ++ " NOT ") = .ok _ := (hnarrow _).trans rfl
  obtain ⟨values, hchosen, hsubValues⟩ := hvalues.continued _ hfewerValues
  refine ⟨ht, hd, hlabels, _, kept, _, values, _, hoffers, hkept, hfewer, hchosen, hfewerValues, rfl,
    ?_, rfl, ?_, rfl, hnarrows.typed _ hkept, hsub, hsubValues, fun input => ⟨hanswers hd input, ?_⟩⟩
  · obtain rfl := Except.ok.inj hkept
    rfl
  · obtain rfl := Except.ok.inj ((hnarrow _).symm.trans hchosen)
    rfl
  · obtain ⟨answer, ha⟩ := hfound hlabels input
    exact ⟨_, map_ok.mpr ⟨answer, ha, rfl⟩⟩

end Criteria
