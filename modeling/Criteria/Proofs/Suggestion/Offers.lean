import Mathlib.Data.List.Forall2
import Mathlib.Data.List.Nodup
import Criteria.Suggestion

/-!
# What is offered before anything is typed

A step offers each field, each connector or each operator of the chosen field with one item. Fields
and connectors are offered in the order of the schema (`State.Offers`). Of the operators the default
one is moved to the front, and the others keep their order as long as their keys differ
(`Field.DefaultFirst`).
-/

namespace Criteria

structure Field.ShownAs (f : Field) (item : Item) : Prop where
  kind : item.kind = .field
  key : item.key = .text f.key
  label : item.label = .text f.label
  description : item.description = f.description
  group : item.group = f.group

structure Operator.ShownAs (op : Operator) (item : Item) : Prop where
  kind : item.kind = .operator
  key : item.key = .text op.key
  label : item.label = .text op.label
  description : item.description = op.symbol
  form : item.form = op.multiValue

structure ConnectorChoice.ShownAs (c : ConnectorChoice) (item : Item) : Prop where
  kind : item.kind = .connector
  key : item.key = .text c.key
  label : item.label = .text c.label
  description : item.description = .null

/-- The operators of a field, with the default one moved to the front. -/
inductive Field.DefaultFirst (f : Field) : List Operator → Prop
  | none (h : f.operators = []) : DefaultFirst f []
  | moved (h : f.operators = before ++ op :: after) (hd : f.default? = some op) :
      DefaultFirst f (op :: (before ++ after))

/-- One item for each thing that can be chosen in a state. -/
structure State.Offers (st : State) (s : Schema) (items : List Item) : Prop where
  fields : ∀ es pending, st = selectingField es pending →
    List.Forall₂ Field.ShownAs s.fields items
  operators : ∀ es pending chosen f, st = selectingOperator es pending (some chosen) →
    s.field? chosen.key = some f →
      ∃ ops, List.Forall₂ Operator.ShownAs ops items ∧ ops.Perm f.operators ∧
        ((f.operators.map (·.key)).Nodup → f.DefaultFirst ops)
  connectors : ∀ es, st = selectingConnector es → es ≠ [] →
    List.Forall₂ ConnectorChoice.ShownAs s.connectors items

-- ---------------------------------------------------------------------------
-- Operators
-- ---------------------------------------------------------------------------

namespace Field

variable {f : Field} {op other : Operator} {before after : List Operator}

theorem offered_eq (f : Field) : f.offered =
    (f.operators.zipIdx.filter fun p => f.isDefaultAt p.1 p.2).map Prod.fst ++
      (f.operators.zipIdx.filter fun p => !f.isDefaultAt p.1 p.2).map Prod.fst := by
  rw [offered, List.partition_eq_filter_filter]
  exact List.map_append

theorem offered_perm (f : Field) : f.offered.Perm f.operators := by
  have hperm := List.filter_append_perm (fun p : Operator × Nat => f.isDefaultAt p.1 p.2)
    f.operators.zipIdx
  have hmap := hperm.map Prod.fst
  rwa [List.map_append, ← offered_eq, List.zipIdx_map_fst] at hmap

theorem defaultIndex?_cases (f : Field) : f.operators = [] ∧ f.defaultIndex? = none ∨
    ∃ i, f.defaultIndex? = some i ∧ i < f.operators.length := by
  have hfirst : f.operators = [] ∧ (if f.operators.isEmpty then none else some 0) = none ∨
      ∃ i, (if f.operators.isEmpty then none else some 0) = some i ∧ i < f.operators.length := by
    cases f.operators <;> simp
  unfold defaultIndex?
  cases f.defaultOperator with
  | text key =>
    cases hfound : f.operators.findIdx? (·.key == key) with
    | some i => exact .inr ⟨i, by simp [hfound], (List.findIdx?_eq_some_iff_getElem.mp hfound).1⟩
    | none => simpa [hfound] using hfirst
  | _ => exact hfirst

theorem not_isDefaultAt_of_key (hi : f.defaultIndex? = some i) (hop : f.operators[i]? = some op)
    (hplace : place ≠ i) (hkey : other.key ≠ op.key) : f.isDefaultAt other place = false := by
  simp [isDefaultAt, hi, hop, hplace, Operator.isSameStandard, hkey.symm]

/-- Operators with other keys than the default one are offered after it, in their order. -/
theorem offered_of_split (h : f.operators = before ++ op :: after)
    (hi : f.defaultIndex? = some before.length)
    (hkeys : ∀ other ∈ before ++ after, other.key ≠ op.key) :
    f.offered = op :: (before ++ after) := by
  have hop : f.operators[before.length]? = some op := by simp [h]
  have hself : f.isDefaultAt op before.length = true := by simp [isDefaultAt, hi]
  have hbefore : ∀ p ∈ before.zipIdx, f.isDefaultAt p.1 p.2 = false := fun p hp =>
    not_isDefaultAt_of_key hi hop (Nat.ne_of_lt (List.snd_lt_of_mem_zipIdx hp))
      (hkeys _ (List.mem_append_left _ (List.fst_mem_of_mem_zipIdx hp)))
  have hafter : ∀ p ∈ after.zipIdx (before.length + 1), f.isDefaultAt p.1 p.2 = false := fun p hp =>
    not_isDefaultAt_of_key hi hop (Nat.ne_of_gt (List.mem_zipIdx hp).1)
      (hkeys _ (List.mem_append_right _ (List.fst_mem_of_mem_zipIdx hp)))
  have hsplit : f.operators.zipIdx =
      before.zipIdx ++ (op, before.length) :: after.zipIdx (before.length + 1) := by
    rw [h, List.zipIdx_append, List.zipIdx_cons, Nat.zero_add]
  have hdefault : (f.operators.zipIdx.filter fun p => f.isDefaultAt p.1 p.2) =
      [(op, before.length)] := by
    rw [hsplit, List.filter_append, List.filter_cons, if_pos hself,
      List.filter_eq_nil_iff.mpr fun p hp => by simp [hbefore p hp],
      List.filter_eq_nil_iff.mpr fun p hp => by simp [hafter p hp], List.nil_append]
  have hothers : (f.operators.zipIdx.filter fun p => !f.isDefaultAt p.1 p.2) =
      before.zipIdx ++ after.zipIdx (before.length + 1) := by
    rw [hsplit, List.filter_append, List.filter_cons, if_neg (by simp [hself]),
      List.filter_eq_self.mpr fun p hp => by simp [hbefore p hp],
      List.filter_eq_self.mpr fun p hp => by simp [hafter p hp]]
  rw [offered_eq, hdefault, hothers, List.map_append, List.zipIdx_map_fst, List.zipIdx_map_fst]
  rfl

theorem offered_defaultFirst (hn : (f.operators.map (·.key)).Nodup) : f.DefaultFirst f.offered := by
  rcases f.defaultIndex?_cases with ⟨hnone, -⟩ | ⟨i, hi, hlt⟩
  · have hoffered : f.offered = [] := List.perm_nil.mp (hnone ▸ f.offered_perm)
    exact hoffered ▸ .none hnone
  · have hsplit : f.operators =
        f.operators.take i ++ f.operators[i] :: f.operators.drop (i + 1) := by
      rw [← List.drop_eq_getElem_cons hlt, List.take_append_drop]
    have hlength : (f.operators.take i).length = i := List.length_take_of_le (Nat.le_of_lt hlt)
    have hdefault : f.default? = some f.operators[i] := by simp [default?, hi]
    rw [hsplit, List.map_append, List.map_cons, List.nodup_middle, ← List.map_append] at hn
    have hkeys : ∀ other ∈ f.operators.take i ++ f.operators.drop (i + 1),
        other.key ≠ f.operators[i].key := fun other hother heq =>
      (List.nodup_cons.mp hn).1 (List.mem_map.mpr ⟨other, hother, heq⟩)
    rw [offered_of_split hsplit (by rw [hlength, hi]) hkeys]
    exact .moved hsplit hdefault

end Field

-- ---------------------------------------------------------------------------
-- States
-- ---------------------------------------------------------------------------

theorem forall₂_map_self {r : α → β → Prop} {g : α → β} {xs : List α} (h : ∀ x, r x (g x)) :
    List.Forall₂ r xs (xs.map g) :=
  List.forall₂_map_right_iff.mpr (List.forall₂_same.mpr fun x _ => h x)

theorem Schema.fieldItems_shown (s : Schema) (es : Filter) :
    List.Forall₂ Field.ShownAs s.fields (s.fieldItems es) :=
  forall₂_map_self fun _ => ⟨rfl, rfl, rfl, rfl, rfl⟩

theorem State.offers_choices (st : State) (s : Schema) : st.Offers s (st.choices s) where
  fields := by
    rintro es pending rfl
    exact s.fieldItems_shown es
  operators := by
    rintro es pending chosen f rfl hf
    have hchoices : (selectingOperator es pending (some chosen)).choices s = f.operatorItems := by
      simp only [choices, hf]
    rw [hchoices]
    exact ⟨f.offered, forall₂_map_self fun _ => ⟨rfl, rfl, rfl, rfl, rfl⟩, f.offered_perm,
      Field.offered_defaultFirst⟩
  connectors := by
    rintro es rfl hne
    obtain ⟨e, rest, rfl⟩ := List.exists_cons_of_ne_nil hne
    exact forall₂_map_self fun _ => ⟨rfl, rfl, rfl, rfl⟩

end Criteria
