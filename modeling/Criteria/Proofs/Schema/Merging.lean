import Mathlib.Data.List.Basic
import Criteria.Schema.Combine
import Criteria.Proofs.Validation.Unambiguous

/-!
# Merged schemas

A merged schema has each key of its schemas once, where it first comes up, with the field that the
first schema with the key has under it (`Schema.FirstWins`). So it makes no difference in which
groups schemas are merged, as long as the last schema is in the last group, and what is merged from
unambiguous schemas is unambiguous again.
-/

namespace Criteria.Schema

/-- The fields of a schema are those of other schemas, the first one under each key. -/
structure FirstWins (ss : List Schema) (merged : Schema) : Prop where
  field : ∀ key, merged.field? key = (ss.find? (·.fieldKeys.contains key)).bind (·.field? key)
  distinct : merged.fieldKeys.Nodup
  /-- Keys stand in the order in which they first come up. -/
  ordered : merged.fieldKeys.Pairwise fun a b =>
    (ss.flatMap (·.fieldKeys)).idxOf a < (ss.flatMap (·.fieldKeys)).idxOf b

variable {s last : Schema} {ss ts : List Schema} {f : Field} {fs gs : List Field}
  {seen : List String} {key : String}

-- ---------------------------------------------------------------------------
-- The first field under each key
-- ---------------------------------------------------------------------------

theorem firstByKey_seen (seen : List String) (fs : List Field) :
    firstByKey seen fs = (firstByKey [] fs).filter fun f => !seen.contains f.key := by
  induction fs generalizing seen with
  | nil => rfl
  | cons f fs ih =>
    simp only [firstByKey, ih seen, ih (f.key :: seen), ih [f.key]]
    by_cases hf : f.key ∈ seen
    · simp only [List.contains_eq_mem, hf, List.not_mem_nil, decide_true, decide_false, if_true,
        Bool.false_eq_true, if_false, List.filter_cons, Bool.not_true, List.filter_filter]
      refine List.filter_congr fun g _ => ?_
      by_cases hg : g.key = f.key
      · simp [hg, hf]
      · simp [hg]
    · simp [hf, Bool.and_comm]

theorem firstByKey_cons : firstByKey [] (f :: fs) =
    f :: (firstByKey [] fs).filter (·.key ≠ f.key) := by
  have hrest := firstByKey_seen [f.key] fs
  simpa [firstByKey] using hrest

theorem mem_keys_firstByKey :
    key ∈ (firstByKey [] fs).map (·.key) ↔ key ∈ fs.map (·.key) := by
  induction fs with
  | nil => rfl
  | cons f fs ih =>
    rw [firstByKey_cons, List.map_cons, List.map_cons, List.mem_cons, List.mem_cons, ← ih]
    by_cases hkey : key = f.key
    · simp [hkey]
    · simp only [hkey, false_or, List.mem_map, List.mem_filter]
      constructor
      · rintro ⟨g, ⟨hg, -⟩, rfl⟩
        exact ⟨g, hg, rfl⟩
      · rintro ⟨g, hg, rfl⟩
        exact ⟨g, ⟨hg, by simp [hkey]⟩, rfl⟩

theorem firstByKey_append : firstByKey [] (fs ++ gs) =
    firstByKey [] fs ++ (firstByKey [] gs).filter fun g => !(fs.map (·.key)).contains g.key := by
  induction fs with
  | nil => simp [firstByKey]
  | cons f fs ih =>
    rw [List.cons_append, firstByKey_cons, firstByKey_cons, ih, List.filter_append,
      List.filter_filter, List.cons_append]
    congr 2
    refine List.filter_congr fun g _ => ?_
    simp

theorem keys_firstByKey_ordered (fs : List Field) :
    ((firstByKey [] fs).map (·.key)).Pairwise fun a b =>
      (fs.map (·.key)).idxOf a < (fs.map (·.key)).idxOf b := by
  induction fs with
  | nil => exact .nil
  | cons f fs ih =>
    have hlater (g : Field) (hg : decide (g.key ≠ f.key) = true) :
        ((f :: fs).map (·.key)).idxOf g.key = (fs.map (·.key)).idxOf g.key + 1 :=
      List.idxOf_cons_ne _ (Ne.symm (of_decide_eq_true hg))
    rw [List.pairwise_map] at ih ⊢
    rw [firstByKey_cons, List.pairwise_cons]
    constructor
    · intro g hg
      rw [hlater g (List.mem_filter.mp hg).2, List.map_cons, List.idxOf_cons_self]
      exact Nat.succ_pos _
    · refine List.pairwise_filter.mpr (ih.imp fun hlt ha hb => ?_)
      rw [hlater _ ha, hlater _ hb]
      exact Nat.succ_lt_succ hlt

theorem keys_firstByKey_nodup (fs : List Field) : ((firstByKey [] fs).map (·.key)).Nodup :=
  (keys_firstByKey_ordered fs).imp fun hlt heq => absurd (heq ▸ hlt) (Nat.lt_irrefl _)

theorem firstByKey_of_nodup (h : (fs.map (·.key)).Nodup) : firstByKey [] fs = fs := by
  induction fs with
  | nil => rfl
  | cons f fs ih =>
    obtain ⟨hnew, hnodup⟩ := List.nodup_cons.mp h
    rw [firstByKey_cons, ih hnodup, List.filter_eq_self.mpr]
    intro g hg
    have hmem : g.key ∈ fs.map (·.key) := List.mem_map_of_mem hg
    exact decide_eq_true (ne_of_mem_of_not_mem hmem hnew)

theorem firstByKey_groups :
    firstByKey [] (firstByKey [] fs ++ firstByKey [] gs) = firstByKey [] (fs ++ gs) := by
  have hidem (fs : List Field) : firstByKey [] (firstByKey [] fs) = firstByKey [] fs :=
    firstByKey_of_nodup (keys_firstByKey_nodup fs)
  rw [firstByKey_append, firstByKey_append, hidem, hidem]
  simp only [List.contains_eq_mem, mem_keys_firstByKey]

theorem find?_firstByKey : (firstByKey [] fs).find? (·.key == key) = fs.find? (·.key == key) := by
  induction fs with
  | nil => rfl
  | cons f fs ih =>
    rw [firstByKey_cons]
    by_cases hkey : f.key = key
    · simp [hkey]
    · have hskip (gs : List Field) : (f :: gs).find? (·.key == key) = gs.find? (·.key == key) :=
        List.find?_cons_of_neg (by simpa using hkey)
      rw [hskip, hskip, List.find?_filter, ← ih]
      refine congrArg (List.find? · _) (funext fun g => ?_)
      by_cases hg : g.key = key
      · simp [hg, Ne.symm hkey]
      · simp [hg]

theorem firstByKey_eq_nil_iff : firstByKey [] fs = [] ↔ fs = [] := by
  cases fs with
  | nil => exact Iff.rfl
  | cons f fs => simp [firstByKey_cons]

theorem mem_of_mem_firstByKey (h : f ∈ firstByKey [] fs) : f ∈ fs := by
  induction fs with
  | nil => exact h
  | cons g fs ih =>
    rw [firstByKey_cons] at h
    rcases List.mem_cons.mp h with rfl | h
    · exact .head _
    · exact .tail _ (ih (List.mem_filter.mp h).1)

-- ---------------------------------------------------------------------------
-- Merging
-- ---------------------------------------------------------------------------

theorem fields_merge (ss : List Schema) :
    (merge ss).fields = firstByKey [] (ss.flatMap (·.fields)) := by
  unfold merge
  cases ss.getLast? <;> rfl

theorem merge_of_getLast? (h : ss.getLast? = some last) : merge ss =
    { fields := firstByKey [] (ss.flatMap (·.fields))
      connectors := last.connectors
      maxExpressions := last.maxExpressions } := by
  simp only [merge, h]

/-- The last schema of the last group decides in both ways of merging. -/
theorem merge_groups (h : ts ≠ []) : merge (ss ++ ts) = merge [merge ss, merge ts] := by
  obtain ⟨last, hlast⟩ := Option.ne_none_iff_exists'.mp (mt List.getLast?_eq_none_iff.mp h)
  have htogether : (ss ++ ts).getLast? = some last := by rw [List.getLast?_append, hlast]; rfl
  have hgroups : [merge ss, merge ts].getLast? = some (merge ts) := rfl
  rw [merge_of_getLast? htogether, merge_of_getLast? hgroups]
  simp only [List.flatMap_cons, List.flatMap_nil, List.append_nil, fields_merge, firstByKey_groups,
    List.flatMap_append, merge_of_getLast? hlast]

theorem map_key_flatMap_fields (ss : List Schema) :
    (ss.flatMap (·.fields)).map (·.key) = ss.flatMap (·.fieldKeys) :=
  List.map_flatMap ..

theorem field?_eq_none_iff_notMem : s.field? key = none ↔ key ∉ s.fieldKeys := by
  simp [field?, fieldKeys]

theorem find?_flatMap_fields : (ss.flatMap (·.fields)).find? (·.key == key) =
    (ss.find? (·.fieldKeys.contains key)).bind (·.field? key) := by
  induction ss with
  | nil => rfl
  | cons s ss ih =>
    have hfield : s.fields.find? (·.key == key) = s.field? key := rfl
    rw [List.flatMap_cons, List.find?_append, ih, hfield]
    by_cases hkey : key ∈ s.fieldKeys
    · have hfound := mt field?_eq_none_iff_notMem.mp (not_not.mpr hkey)
      obtain ⟨f, hf⟩ := Option.ne_none_iff_exists'.mp hfound
      simp [hkey, hf]
    · simp [hkey, field?_eq_none_iff_notMem.mpr hkey]

theorem firstWins_merge (ss : List Schema) : FirstWins ss (merge ss) where
  field key := by
    rw [field?, fields_merge, find?_firstByKey, find?_flatMap_fields]
  distinct := by
    rw [fieldKeys, fields_merge]
    exact keys_firstByKey_nodup _
  ordered := by
    rw [fieldKeys, fields_merge, ← map_key_flatMap_fields]
    exact keys_firstByKey_ordered _

theorem Unambiguous.merge (hne : ss ≠ []) (h : ∀ s ∈ ss, s.Unambiguous) :
    (Schema.merge ss).Unambiguous := by
  obtain ⟨last, hlast⟩ := Option.ne_none_iff_exists'.mp (mt List.getLast?_eq_none_iff.mp hne)
  have hlastMem : last ∈ ss := List.mem_of_getLast? hlast
  have hfields : ss.flatMap (·.fields) ≠ [] := fun hnil =>
    (h last hlastMem).nonempty (List.flatMap_eq_nil_iff.mp hnil last hlastMem)
  refine {
    nonempty := ?_
    limit := ?_
    fieldKeys := (firstWins_merge ss).distinct
    fields := fun f hf => ?_ }
  · rw [fields_merge]
    exact mt firstByKey_eq_nil_iff.mp hfields
  · rw [merge_of_getLast? hlast]
    exact (h last hlastMem).limit
  · rw [fields_merge] at hf
    obtain ⟨s, hs, hmem⟩ := List.mem_flatMap.mp (mem_of_mem_firstByKey hf)
    exact (h s hs).fields f hmem

/-- Merging is the same in groups, the first field under each key wins, and what its own check
accepts is still accepted after it was merged. -/
theorem merge_first_wins (ss : List Schema) :
    (∀ ts, ts ≠ [] → merge (ss ++ ts) = merge [merge ss, merge ts]) ∧
      FirstWins ss (merge ss) ∧
      (ss ≠ [] → (∀ s ∈ ss, s.Accepted) → (merge ss).Accepted) := by
  refine ⟨fun ts => merge_groups, firstWins_merge ss, fun hne h => ?_⟩
  refine accepted_iff_unambiguous.mpr (.merge hne fun s hs => ?_)
  exact accepted_iff_unambiguous.mp (h s hs)

/-- Two schemas share a key, the first one comes again at the end. -/
theorem merge_first_wins_shared_key :
    let field (key label : String) : Field :=
      { key, label, operators := [{ key := "is", label := "is" }] }
    let s : Schema := { fields := [field "colour" "Colour", field "size" "Size"] }
    let t : Schema :=
      { fields := [field "shape" "Shape", field "size" "Extent", field "name" "Name"]
        connectors := [⟨"OR", "or"⟩], maxExpressions := some 3 }
    (∀ u ∈ [t, s, t], u.Accepted) ∧ (merge [t, s, t]).Accepted ∧
      merge ([t] ++ [s, t]) = merge [merge [t], merge [s, t]] ∧
      (merge [t, s, t]).fieldKeys = ["shape", "size", "name", "colour"] ∧
      (merge [t, s, t]).field? "size" = some (field "size" "Extent") := by
  intro field s t
  have hs : s.Accepted := ⟨{}, rfl, rfl⟩
  have ht : t.Accepted := ⟨{}, rfl, rfl⟩
  have hall : ∀ u ∈ [t, s, t], u.Accepted := by simp [hs, ht]
  obtain ⟨-, hwins, haccepted⟩ := merge_first_wins [t, s, t]
  refine ⟨hall, haccepted (by simp) hall, (merge_first_wins [t]).1 [s, t] (by simp), rfl, ?_⟩
  exact hwins.field "size"

end Criteria.Schema
