import Criteria.Proofs.Fault
import Criteria.Proofs.Filter.Joined

/-!
# Entries restored one by one

`Entry.Restores` lists what becomes of the entries of a list: one is kept as an expression or
skipped with an error at its place, whatever stands before and after it. So a list gives what
its entries give alone, and two lists in a row give what each of them gives, the places of
the second counted on. Only the connectors depend on the neighbours that were kept.
-/

namespace Criteria

def RestoreError.shift (k : Nat) (e : RestoreError) : RestoreError :=
  { e with index := e.index.map (· + k) }

namespace Entry

def carried? : Data → Option Connector
  | .record entries => (Data.lookup "connector" entries).bind Connector.ofData?
  | _ => none

inductive Restored (s : Schema) (options : RestoreOptions) : Data → Expression → Prop
  | intro (hl : locate s entries = .ok (f, op, stored)) (hc : connector entries = .ok (.ok c))
      (hv : restoredValue options f op stored = .ok (.ok value)) :
      Restored s options (.record entries) ⟨⟨f.ref, op.ref, value⟩, c⟩

/-- What becomes of the entries from place `i` on: expressions, not linked yet, and errors. -/
inductive Restores (s : Schema) (options : RestoreOptions) :
    Nat → List Data → List Expression → List RestoreError → Prop
  | nil : Restores s options i [] [] []
  | keep (h : restore s options item = .ok (.ok e))
      (rest : Restores s options (i + 1) data es errors) :
      Restores s options i (item :: data) (e :: es) errors
  | skip (h : restore s options item = .ok (.error cause))
      (rest : Restores s options (i + 1) data es errors) :
      Restores s options i (item :: data) es
        ({ index := some i, cause := .entry cause, field := fieldKey? item } :: errors)

end Entry

namespace Schema

def alone (s : Schema) (options : RestoreOptions) (item : Data) : Restoration :=
  match s.restoreFilter (.list [item]) options with
  | .ok r => r
  | .error _ => {}

/-- What restoring a list gives, told by what its entries give alone. -/
structure RestoresEach (s : Schema) (options : RestoreOptions) (data : List Data)
    (r : Restoration) : Prop where
  alone : ∀ item ∈ data, s.restoreFilter (.list [item]) options = .ok (s.alone options item) ∧
    (s.alone options item).expressions.length + (s.alone options item).errors.length = 1
  conditions : r.expressions.map (·.condition) =
    data.flatMap fun item => (s.alone options item).expressions.map (·.condition)
  errors : r.errors =
    data.zipIdx.flatMap fun p => (s.alone options p.1).errors.map (·.shift p.2)
  places : ∃ places : List Nat, r.errors.map (·.index) = places.map some ∧
    places.Pairwise (· < ·)
  length : r.expressions.length + r.errors.length = data.length
  /-- What counts is the place among the entries that are kept. -/
  connectors : ∀ kept, kept = data.filter (fun item => (s.alone options item).isComplete) →
    ∀ k : Nat, r.expressions[k]?.map (·.connector) =
      kept[k]?.map fun item => Filter.rejoined kept.length k (Entry.carried? item)
  linked : r.expressions.linkProblem? = none

end Schema

/-- One restoration after another, which had `k` entries. -/
structure Restoration.IsAppend (k : Nat) (first second r : Restoration) : Prop where
  conditions : r.expressions.map (·.condition) =
    first.expressions.map (·.condition) ++ second.expressions.map (·.condition)
  errors : r.errors = first.errors ++ second.errors.map (·.shift k)

section
variable {s : Schema} {options : RestoreOptions} {a b data : List Data} {item : Data}
  {es : List Expression} {errors : List RestoreError} {i k : Nat} {r : Restoration}

namespace Entry

theorem restoreFrom_ok_iff :
    restoreFrom s options i data = .ok (es, errors) ↔ Restores s options i data es errors := by
  constructor
  · intro h
    induction data generalizing i es errors with
    | nil =>
      cases h
      exact .nil
    | cons item data ih =>
      obtain ⟨out, hout, h⟩ := bind_ok.mp h
      obtain ⟨⟨es₁, errors₁⟩, hrest, h⟩ := bind_ok.mp h
      cases out with
      | ok e =>
        cases h
        exact .keep hout (ih hrest)
      | error cause =>
        cases h
        exact .skip hout (ih hrest)
  · intro h
    induction h with
    | nil => rfl
    | keep h _ ih => exact bind_ok.mpr ⟨_, h, bind_ok.mpr ⟨_, ih, rfl⟩⟩
    | skip h _ ih => exact bind_ok.mpr ⟨_, h, bind_ok.mpr ⟨_, ih, rfl⟩⟩

theorem Restores.length (h : Restores s options i data es errors) :
    es.length + errors.length = data.length := by
  induction h with
  | nil => rfl
  | keep _ _ ih => simp only [List.length_cons]; omega
  | skip _ _ ih => simp only [List.length_cons]; omega

theorem Restores.places (h : Restores s options i data es errors) :
    ∃ places : List Nat, errors.map (·.index) = places.map some ∧ places.Pairwise (· < ·) ∧
      ∀ p ∈ places, i ≤ p := by
  induction h with
  | nil => exact ⟨[], rfl, .nil, nofun⟩
  | keep _ _ ih =>
    obtain ⟨places, hplaces, hsorted, hle⟩ := ih
    exact ⟨places, hplaces, hsorted, fun p hp => Nat.le_of_succ_le (hle p hp)⟩
  | @skip item cause i data es errors _ _ ih =>
    obtain ⟨places, hplaces, hsorted, hle⟩ := ih
    refine ⟨i :: places, by simp [hplaces], .cons (fun p hp => hle p hp) hsorted, ?_⟩
    simp only [List.forall_mem_cons]
    exact ⟨Nat.le_refl i, fun p hp => Nat.le_of_succ_le (hle p hp)⟩

theorem restores_shift : Restores s options (i + k) data es errors ↔
    ∃ errors', Restores s options i data es errors' ∧ errors = errors'.map (·.shift k) := by
  constructor
  · intro h
    induction data generalizing i es errors with
    | nil =>
      cases h
      exact ⟨[], .nil, rfl⟩
    | cons item data ih =>
      cases h with
      | keep h rest =>
        obtain ⟨errors', hrest, rfl⟩ := ih (Nat.add_right_comm i k 1 ▸ rest)
        exact ⟨errors', .keep h hrest, rfl⟩
      | skip h rest =>
        obtain ⟨errors', hrest, rfl⟩ := ih (Nat.add_right_comm i k 1 ▸ rest)
        exact ⟨_, .skip h hrest, rfl⟩
  · rintro ⟨errors', h, rfl⟩
    induction h with
    | nil => exact .nil
    | @keep _ _ i _ _ _ h _ ih => exact .keep h (Nat.add_right_comm i k 1 ▸ ih)
    | @skip _ _ i _ _ _ h _ ih => exact .skip h (Nat.add_right_comm i k 1 ▸ ih)

theorem add_length_cons (i : Nat) (item : Data) (a : List Data) :
    i + (item :: a).length = i + 1 + a.length := by
  rw [List.length_cons, Nat.add_assoc, Nat.add_comm 1]

theorem restores_append : Restores s options i (a ++ b) es errors ↔
    ∃ es₁ es₂ errors₁ errors₂, Restores s options i a es₁ errors₁ ∧
      Restores s options (i + a.length) b es₂ errors₂ ∧
        es = es₁ ++ es₂ ∧ errors = errors₁ ++ errors₂ := by
  constructor
  · intro h
    induction a generalizing i es errors with
    | nil => exact ⟨[], es, [], errors, .nil, h, rfl, rfl⟩
    | cons item a ih =>
      rw [add_length_cons]
      cases h with
      | keep h rest =>
        obtain ⟨es₁, es₂, errors₁, errors₂, ha, hb, rfl, rfl⟩ := ih rest
        exact ⟨_, es₂, errors₁, errors₂, .keep h ha, hb, rfl, rfl⟩
      | skip h rest =>
        obtain ⟨es₁, es₂, errors₁, errors₂, ha, hb, rfl, rfl⟩ := ih rest
        exact ⟨es₁, es₂, _, errors₂, .skip h ha, hb, rfl, rfl⟩
  · rintro ⟨es₁, es₂, errors₁, errors₂, ha, hb, rfl, rfl⟩
    induction ha with
    | nil => exact hb
    | keep h _ ih => exact .keep h (ih (add_length_cons .. ▸ hb))
    | skip h _ ih => exact .skip h (ih (add_length_cons .. ▸ hb))

-- ---------------------------------------------------------------------------
-- One entry
-- ---------------------------------------------------------------------------

theorem connector_ok (h : connector entries = .ok (.ok c)) :
    c = (Data.lookup "connector" entries).bind Connector.ofData? := by
  unfold connector at h
  cases hl : Data.lookup "connector" entries with
  | none =>
    simp only [hl, Data.ofOption] at h
    cases h
    rfl
  | some d =>
    simp only [hl, Data.ofOption] at h
    split at h
    · cases h
      rfl
    · split at h
      next hd =>
        cases h
        exact hd.symm
      next =>
        obtain ⟨text, -, h⟩ := bind_ok.mp h
        cases h

theorem restore_ok_iff : restore s options item = .ok (.ok e) ↔ Restored s options item e := by
  constructor
  · intro h
    unfold restore at h
    split at h
    next entries =>
      split at h
      · cases h
      next f op stored hl =>
        obtain ⟨out, hc, h⟩ := bind_ok.mp h
        cases out with
        | error cause => cases h
        | ok c =>
          obtain ⟨out, hv, h⟩ := bind_ok.mp h
          cases out with
          | error cause => cases h
          | ok value =>
            cases h
            exact .intro hl hc hv
    · cases h
  · rintro ⟨hl, hc, hv⟩
    simp only [restore, hl]
    exact bind_ok.mpr ⟨_, hc, bind_ok.mpr ⟨_, hv, rfl⟩⟩

theorem restore_connector (h : restore s options item = .ok (.ok e)) :
    e.connector = carried? item := by
  obtain ⟨-, hc, -⟩ := restore_ok_iff.mp h
  exact connector_ok hc

end Entry

-- ---------------------------------------------------------------------------
-- Lists of entries
-- ---------------------------------------------------------------------------

theorem restoreFilter_ok_iff (hs : s.restore = none) :
    s.restoreFilter (.list data) options = .ok r ↔
      ∃ es errors, Entry.Restores s options 0 data es errors ∧ r = .ofParts es errors := by
  have hhook : (if options.schemaHook then s.restore else none) = none := by simp [hs]
  simp only [Schema.restoreFilter, hhook]
  constructor
  · intro h
    obtain ⟨⟨es, errors⟩, hp, h⟩ := bind_ok.mp h
    cases h
    exact ⟨es, errors, Entry.restoreFrom_ok_iff.mp hp, rfl⟩
  · rintro ⟨es, errors, hp, rfl⟩
    exact bind_ok.mpr ⟨_, Entry.restoreFrom_ok_iff.mpr hp, rfl⟩

theorem alone_of_ok (h : s.restoreFilter (.list [item]) options = .ok r) :
    s.alone options item = r := by
  simp only [Schema.alone, h]

section
variable (hs : s.restore = none)
include hs

theorem restoreFilter_keep (h : Entry.restore s options item = .ok (.ok e)) :
    s.restoreFilter (.list [item]) options = .ok (.ofParts [e] []) :=
  (restoreFilter_ok_iff hs).mpr ⟨_, _, .keep h .nil, rfl⟩

theorem restoreFilter_skip (h : Entry.restore s options item = .ok (.error cause)) :
    s.restoreFilter (.list [item]) options = .ok (.ofParts []
      [{ index := some 0, cause := .entry cause, field := Entry.fieldKey? item }]) :=
  (restoreFilter_ok_iff hs).mpr ⟨_, _, .skip h .nil, rfl⟩

theorem restores_alone (h : Entry.Restores s options i data es errors) : ∀ item ∈ data,
    s.restoreFilter (.list [item]) options = .ok (s.alone options item) ∧
      (s.alone options item).expressions.length + (s.alone options item).errors.length = 1 := by
  induction h with
  | nil => nofun
  | keep h _ ih =>
    have hone := restoreFilter_keep hs h
    rw [List.forall_mem_cons, alone_of_ok hone]
    exact ⟨⟨hone, rfl⟩, ih⟩
  | skip h _ ih =>
    have hone := restoreFilter_skip hs h
    rw [List.forall_mem_cons, alone_of_ok hone]
    exact ⟨⟨hone, rfl⟩, ih⟩

theorem restores_conditions (h : Entry.Restores s options i data es errors) :
    es.map (·.condition) =
      data.flatMap fun item => (s.alone options item).expressions.map (·.condition) := by
  induction h with
  | nil => rfl
  | keep h _ ih =>
    rw [List.flatMap_cons, alone_of_ok (restoreFilter_keep hs h), List.map_cons, ih]
    rfl
  | skip h _ ih =>
    rw [List.flatMap_cons, alone_of_ok (restoreFilter_skip hs h), ih]
    rfl

theorem restores_errors (h : Entry.Restores s options i data es errors) : errors =
    (data.zipIdx i).flatMap fun p => (s.alone options p.1).errors.map (·.shift p.2) := by
  induction h with
  | nil => rfl
  | keep h _ ih =>
    rw [List.zipIdx_cons, List.flatMap_cons, alone_of_ok (restoreFilter_keep hs h), ← ih]
    rfl
  | @skip _ _ i _ _ _ h _ ih =>
    rw [List.zipIdx_cons, List.flatMap_cons, alone_of_ok (restoreFilter_skip hs h), ← ih]
    simp [Restoration.ofParts, RestoreError.shift]

theorem restores_connectors (h : Entry.Restores s options i data es errors) :
    es.map (·.connector) =
      (data.filter fun item => (s.alone options item).isComplete).map Entry.carried? := by
  induction h with
  | nil => rfl
  | @keep item _ _ _ _ _ h _ ih =>
    have hone : (s.alone options item).isComplete = true := by
      rw [alone_of_ok (restoreFilter_keep hs h)]
      rfl
    rw [List.filter_cons, if_pos hone, List.map_cons, List.map_cons, ih, Entry.restore_connector h]
  | @skip item _ _ _ _ _ h _ ih =>
    have hone : ¬ (s.alone options item).isComplete = true := by
      rw [alone_of_ok (restoreFilter_skip hs h)]
      exact Bool.false_ne_true
    rw [List.filter_cons, if_neg hone, ih]

theorem restoresEach_of_restores (h : Entry.Restores s options 0 data es errors) :
    s.RestoresEach options data (.ofParts es errors) where
  alone := restores_alone hs h
  conditions := Filter.map_condition_joined.trans (restores_conditions hs h)
  errors := restores_errors hs h
  places := by
    obtain ⟨places, hplaces, hsorted, -⟩ := h.places
    exact ⟨places, hplaces, hsorted⟩
  length := by
    rw [← h.length]
    exact congrArg (· + errors.length) Filter.length_joined
  connectors kept hkept k := by
    have hc : es.map (·.connector) = kept.map Entry.carried? := hkept ▸ restores_connectors hs h
    have hlength : es.length = kept.length := by simpa using congrArg List.length hc
    have hk : es[k]?.map (·.connector) = kept[k]?.map Entry.carried? := by
      simpa using congrArg (·[k]?) hc
    have hjoined := Filter.getElem?_joined es k
    rw [hlength] at hjoined
    calc (Filter.joined es)[k]?.map (·.connector)
      _ = (es[k]?.map (·.connector)).map (Filter.rejoined kept.length k) := by
        rw [hjoined, Option.map_map]
        rfl
      _ = kept[k]?.map fun item => Filter.rejoined kept.length k (Entry.carried? item) := by
        rw [hk, Option.map_map]
        rfl
  linked := Filter.linkProblem?_eq_none_iff.mpr Filter.joined_linked

end

theorem isAppend_ofParts (k : Nat) (es₁ es₂ : List Expression) (errors₁ errors₂ : List RestoreError) :
    Restoration.IsAppend k (.ofParts es₁ errors₁) (.ofParts es₂ errors₂)
      (.ofParts (es₁ ++ es₂) (errors₁ ++ errors₂.map (·.shift k))) where
  conditions := by simp [Restoration.ofParts, Filter.map_condition_joined]
  errors := rfl

theorem restoreFilter_split (hs : s.restore = none)
    (h : s.restoreFilter (.list (a ++ b)) options = .ok r) :
    ∃ ra rb, s.restoreFilter (.list a) options = .ok ra ∧
      s.restoreFilter (.list b) options = .ok rb ∧ Restoration.IsAppend a.length ra rb r := by
  obtain ⟨es, errors, hr, rfl⟩ := (restoreFilter_ok_iff hs).mp h
  obtain ⟨es₁, es₂, errors₁, _, ha, hrest, rfl, rfl⟩ := Entry.restores_append.mp hr
  obtain ⟨errors₂, hb, rfl⟩ := Entry.restores_shift.mp hrest
  exact ⟨_, _, (restoreFilter_ok_iff hs).mpr ⟨_, _, ha, rfl⟩,
    (restoreFilter_ok_iff hs).mpr ⟨_, _, hb, rfl⟩, isAppend_ofParts ..⟩

theorem restoreFilter_append (hs : s.restore = none)
    (ha : s.restoreFilter (.list a) options = .ok ra)
    (hb : s.restoreFilter (.list b) options = .ok rb) :
    ∃ r, s.restoreFilter (.list (a ++ b)) options = .ok r ∧
      Restoration.IsAppend a.length ra rb r := by
  obtain ⟨es₁, errors₁, hfirst, rfl⟩ := (restoreFilter_ok_iff hs).mp ha
  obtain ⟨es₂, errors₂, hsecond, rfl⟩ := (restoreFilter_ok_iff hs).mp hb
  have hboth := Entry.restores_append.mpr
    ⟨_, _, _, _, hfirst, Entry.restores_shift.mpr ⟨_, hsecond, rfl⟩, rfl, rfl⟩
  exact ⟨_, (restoreFilter_ok_iff hs).mpr ⟨_, _, hboth, rfl⟩,
    Nat.zero_add a.length ▸ isAppend_ofParts ..⟩

/-- A list gives what its entries give alone, and lists in a row give what each of them gives. -/
theorem restoreFilter_entrywise (hs : s.restore = none)
    (h : s.restoreFilter (.list data) options = .ok r) :
    s.RestoresEach options data r ∧
      (∀ a b, data = a ++ b → ∃ ra rb, s.restoreFilter (.list a) options = .ok ra ∧
        s.restoreFilter (.list b) options = .ok rb ∧ Restoration.IsAppend a.length ra rb r) ∧
      ∀ b rb, s.restoreFilter (.list b) options = .ok rb →
        ∃ whole, s.restoreFilter (.list (data ++ b)) options = .ok whole ∧
          Restoration.IsAppend data.length r rb whole := by
  refine ⟨?_, ?_, fun b rb hb => restoreFilter_append hs h hb⟩
  · obtain ⟨es, errors, hr, rfl⟩ := (restoreFilter_ok_iff hs).mp h
    exact restoresEach_of_restores hs hr
  · rintro a b rfl
    exact restoreFilter_split hs h

/-- Of six entries, three malformed in different ways, three are kept. The connector of the
last one that is kept is dropped, and the gap before it is filled. -/
theorem restoreFilter_entrywise_mixed :
    let s : Schema :=
      { fields :=
          [{ key := "size", label := "Size", operators := [{ key := "is", label := "is" }]
             restore := some fun
               | .int n => .ok (.value ⟨.int n, "a size", "stored elsewhere"⟩)
               | _ => .error "no size" },
            { key := "colour", label := "Colour", operators := [{ key := "is", label := "is" }] }] }
    let entry (field : String) (value : Data) (connector : List (Data × Data)) : Data :=
      .record ([(.text "field", .text field), (.text "operator", .text "is"),
        (.text "value", value)] ++ connector)
    let data : List Data :=
      [.null, entry "colour" (.text "red") [(.text "connector", .text "OR")],
        entry "size" (.text "small") [], entry "size" (.int 42) [],
        entry "weight" (.int 1) [], entry "colour" (.bool true) [(.text "connector", .text "OR")]]
    ∃ r, s.restoreFilter (.list data) = .ok r ∧ s.RestoresEach {} data r ∧
      r.errors.map (·.index) = [some 0, some 2, some 4] ∧
      r.expressions.map (·.connector) = [some "OR", some "AND", none] := by
  intro s entry data
  have h : s.restoreFilter (.list data) = .ok _ := rfl
  exact ⟨_, h, (restoreFilter_entrywise rfl h).1, rfl, rfl⟩

end

end Criteria
