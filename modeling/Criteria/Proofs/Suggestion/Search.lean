import Criteria.Proofs.Fault
import Criteria.Suggestion.Session

/-!
# What can be searched

Items are narrowed to those whose label or description mentions what was typed. Only a text
can mention something, so a label or a description that is no text stops the search
(`Item.answers_narrow`); nothing is searched as long as nothing was typed. A search that is not
stopped is a plain filter (`Item.narrow_ok`), so it adds no items and keeps their order.
-/

namespace Criteria

theorem answers_filterAuxM {p : α → Except ε Bool} {xs acc : List α} :
    Answers (xs.filterAuxM p acc) ↔ ∀ x ∈ xs, Answers (p x) := by
  induction xs generalizing acc with
  | nil => simp [List.filterAuxM]
  | cons x xs ih =>
    rw [List.forall_mem_cons]
    exact answers_bind_and fun _ => ih

theorem answers_filterM {p : α → Except ε Bool} {xs : List α} :
    Answers (xs.filterM p) ↔ ∀ x ∈ xs, Answers (p x) :=
  answers_bind_pure.trans answers_filterAuxM

theorem filterAuxM_ok {p : α → Except ε Bool} {q : α → Bool} {xs acc : List α}
    (h : ∀ x ∈ xs, p x = .ok (q x)) :
    xs.filterAuxM p acc = .ok ((xs.filter q).reverse ++ acc) := by
  induction xs generalizing acc with
  | nil => rfl
  | cons x xs ih =>
    obtain ⟨hx, hxs⟩ := List.forall_mem_cons.mp h
    refine bind_ok.mpr ⟨q x, hx, (ih hxs).trans ?_⟩
    cases hq : q x <;> simp [hq]

theorem filterM_ok {p : α → Except ε Bool} {q : α → Bool} {xs : List α}
    (h : ∀ x ∈ xs, p x = .ok (q x)) : xs.filterM p = .ok (xs.filter q) :=
  bind_ok.mpr ⟨_, filterAuxM_ok h, by simp [pure, Except.pure]⟩

namespace Item

variable {item : Item} {items kept : List Item} {needle : List Char} {d : Data}

/-- The label is a text. If it does not mention what is searched for, the description is a text
as well, or there is none. -/
inductive Searchable (item : Item) (needle : List Char) : Prop
  | mentioned (hl : item.label = .text name)
      (h : Text.occursIn needle (Text.lower name.toList) = true)
  | texts (hl : item.label = .text name)
      (h : item.description = .null ∨ ∃ text, item.description = .text text)

def holds (needle : List Char) : Data → Bool
  | .text text => Text.occursIn needle (Text.lower text.toList)
  | _ => false

def isFound (needle : List Char) (item : Item) : Bool :=
  holds needle item.label || holds needle item.description

theorem answers_lowered : Answers (lowered d) ↔ ∃ text, d = .text text := by
  cases d with
  | text written => exact ⟨fun _ => ⟨written, rfl⟩, fun _ => answers_ok⟩
  | _ => exact ⟨fun h => absurd h not_answers_error, nofun⟩

theorem mentions_of_searchable (hs : item.Searchable needle) :
    item.mentions needle = .ok (item.isFound needle) := by
  cases hs with
  | mentioned hl hm =>
    rw [mentions, hl]
    refine bind_ok.mpr ⟨_, rfl, ?_⟩
    simp [isFound, holds, hl, hm, pure, Except.pure]
  | texts hl hd =>
    rw [mentions, hl]
    refine bind_ok.mpr ⟨_, rfl, ?_⟩
    split
    next hm => simp [isFound, holds, hl, hm, pure, Except.pure]
    next hm =>
      rcases hd with hd | ⟨text, hd⟩
      · simp [isFound, holds, hl, hd, hm, pure, Except.pure]
      · simp only [isFound, holds, hl, hd, hm, Bool.false_or]
        exact bind_ok.mpr ⟨_, rfl, rfl⟩

theorem answers_mentions : Answers (item.mentions needle) ↔ item.Searchable needle := by
  refine ⟨fun h => ?_, fun hs => ⟨_, mentions_of_searchable hs⟩⟩
  unfold mentions at h
  obtain ⟨name, hname, h⟩ := answers_bind.mp h
  obtain ⟨name, hl⟩ := answers_lowered.mp ⟨name, hname⟩
  split at h
  next hmentioned =>
    rw [hl] at hname
    cases hname
    exact .mentioned hl hmentioned
  · split at h
    next hd => exact .texts hl (.inl hd)
    next hd =>
      refine .texts hl (.inr ?_)
      exact answers_lowered.mp (answers_bind_pure.mp h)

/-- Items are narrowed to those that mention what was typed, if all of them can be searched. -/
theorem answers_narrow : Answers (narrow items input) ↔
    Item.needle input = [] ∨ ∀ item ∈ items, item.Searchable (Item.needle input) := by
  unfold narrow
  dsimp only
  split
  next h => simp [List.isEmpty_iff.mp h]
  next h =>
    rw [answers_filterM, or_iff_right (mt List.isEmpty_iff.mpr h)]
    exact forall₂_congr fun _ _ => answers_mentions

theorem narrow_of_needle_nil (h : Item.needle input = []) : narrow items input = .ok items := by
  simp [narrow, h]

theorem narrow_ok (hne : Item.needle input ≠ [])
    (hs : ∀ item ∈ items, item.Searchable (Item.needle input)) :
    narrow items input = .ok (items.filter (isFound (Item.needle input))) := by
  have hempty : (Item.needle input).isEmpty = false := by simpa using hne
  simp only [narrow, hempty, Bool.false_eq_true, if_false]
  exact filterM_ok fun item hi => mentions_of_searchable (hs item hi)

theorem narrow_ok_iff (hne : Item.needle input ≠ []) : narrow items input = .ok kept ↔
    (∀ item ∈ items, item.Searchable (Item.needle input)) ∧
      kept = items.filter (isFound (Item.needle input)) := by
  constructor
  · intro h
    have hs := (answers_narrow.mp ⟨kept, h⟩).resolve_left hne
    exact ⟨hs, Except.ok.inj (h.symm.trans (narrow_ok hne hs))⟩
  · rintro ⟨hs, rfl⟩
    exact narrow_ok hne hs

theorem narrow_sublist (h : narrow items input = .ok kept) : kept.Sublist items := by
  by_cases hnil : Item.needle input = []
  · obtain rfl := Except.ok.inj ((narrow_of_needle_nil hnil).symm.trans h)
    exact List.Sublist.refl items
  · obtain ⟨-, rfl⟩ := (narrow_ok_iff hnil).mp h
    exact List.filter_sublist

end Item

-- ---------------------------------------------------------------------------
-- Steps
-- ---------------------------------------------------------------------------

theorem State.answers_suggest {st : State} {s : Schema} : Answers (st.suggest s input) ↔
    Item.needle input = [] ∨ ∀ item ∈ st.choices s, item.Searchable (Item.needle input) :=
  Item.answers_narrow

-- ---------------------------------------------------------------------------
-- Fixed choices
-- ---------------------------------------------------------------------------

namespace Provider

variable {entries : List (Data × Data)} {query : ValueQuery}

theorem fetch_choices : (choices entries).fetch query =
    match Item.narrow (choiceItems entries) query.input with
    | .ok items => .ok (some items)
    | .error f => .error (.fault f) := by
  cases h : Item.narrow (choiceItems entries) query.input with
  | ok items =>
    have hanswer : (choices entries).answer query = .ok { items } := bind_ok.mpr ⟨items, h, rfl⟩
    show (Session.complete _ _ _ _).2 = _
    simp only [Session.complete, hanswer]
    rfl
  | error f =>
    have hanswer : (choices entries).answer query = .error f := bind_error_first h
    show (Session.complete _ _ _ _).2 = _
    simp only [Session.complete, hanswer]

theorem searchable_choice {key label : Data} :
    ({ kind := .value, key, label } : Item).Searchable needle ↔ ∃ name, label = .text name := by
  constructor
  · rintro (⟨hl, -⟩ | ⟨hl, -⟩)
    · exact ⟨_, hl⟩
    · exact ⟨_, hl⟩
  · rintro ⟨name, hl⟩
    exact .texts hl (.inl rfl)

theorem fetch_choices_iff : (∃ items, (choices entries).fetch query = .ok (some items)) ↔
    Item.needle query.input = [] ∨ ∀ e ∈ entries, ∃ name, e.2 = .text name := by
  have hnarrow : (∃ items, (choices entries).fetch query = .ok (some items)) ↔
      Answers (Item.narrow (choiceItems entries) query.input) := by
    rw [fetch_choices]
    cases Item.narrow (choiceItems entries) query.input with
    | ok items => exact ⟨fun _ => answers_ok, fun _ => ⟨items, rfl⟩⟩
    | error f => exact ⟨nofun, fun h => absurd h not_answers_error⟩
  rw [hnarrow, Item.answers_narrow, choiceItems, List.forall_mem_map]
  exact or_congr_right (forall₂_congr fun _ _ => searchable_choice)

end Provider

end Criteria
