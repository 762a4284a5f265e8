import Mathlib.Algebra.Group.Nat.Defs
import Criteria.Proofs.Fault
import Criteria.Wire.Value

/-!
# Values that have a text

Every value has a text, be it shown or stored, unless it is a whole number that is too long
or holds one (`Data.Oversized`). No number that is read from a text is that long.
-/

namespace Criteria

theorem answers_wholeText :
    Answers (wholeText n) ↔ (Nat.toDigits 10 n.natAbs).length ≤ Numeral.digitLimit := by
  unfold wholeText Numeral.writeWhole?
  by_cases h : (Nat.toDigits 10 n.natAbs).length ≤ Numeral.digitLimit
  · simp [h]
  · simp [h]

theorem Numeral.valueOf_lt {ds : List Nat} (h : ∀ d ∈ ds, d < base) :
    valueOf base ds < base ^ ds.length := by
  -- The digits in front of `ds` have the value `n`.
  suffices ∀ n, ds.foldl (fun n d => n * base + d) n < (n + 1) * base ^ ds.length by
    simpa [valueOf] using this 0
  induction ds with
  | nil => simp
  | cons d ds ih =>
    intro n
    rw [List.forall_mem_cons] at h
    have hstep : n * base + d + 1 ≤ (n + 1) * base := by
      rw [Nat.add_one_mul]
      exact Nat.add_le_add_left h.1 _
    calc ds.foldl (fun n d => n * base + d) (n * base + d)
      _ < (n * base + d + 1) * base ^ ds.length := ih h.2 _
      _ ≤ (n + 1) * base * base ^ ds.length := Nat.mul_le_mul_right _ hstep
      _ = (n + 1) * base ^ (ds.length + 1) := by
        rw [Nat.pow_succ, Nat.mul_assoc, Nat.mul_comm base]

theorem Numeral.one_lt_pow_digitLimit : (1 : Int) < (10 ^ digitLimit : Nat) :=
  Int.ofNat_lt.mpr (Nat.one_lt_pow (by decide) (by decide))

namespace Data

/-- A whole number with more digits than are ever written, or a value that holds one. -/
inductive Oversized : Data → Prop
  | int (h : Numeral.digitLimit < (Nat.toDigits 10 n.natAbs).length) : Oversized (int n)
  | list (hx : x ∈ xs) (h : Oversized x) : Oversized (list xs)
  | tuple (hx : x ∈ xs) (h : Oversized x) : Oversized (tuple xs)
  | set (hx : x ∈ xs) (h : Oversized x) : Oversized (set xs)
  | key (he : e ∈ es) (h : Oversized e.1) : Oversized (record es)
  | value (he : e ∈ es) (h : Oversized e.2) : Oversized (record es)

@[simp] theorem not_oversized_null : ¬ Oversized null := by
  intro h
  cases h

@[simp] theorem not_oversized_text {s : String} : ¬ Oversized (text s) := by
  intro h
  cases h

theorem not_oversized_int :
    ¬ Oversized (int n) ↔ (Nat.toDigits 10 n.natAbs).length ≤ Numeral.digitLimit :=
  ⟨fun h => Nat.not_lt.mp fun hlt => h (.int hlt), fun h => fun | .int hlt => Nat.not_lt.mpr h hlt⟩

theorem not_oversized_valueOf {ds : List Nat} (h : ∀ d ∈ ds, d < 10)
    (hlength : ds.length ≤ Numeral.digitLimit) (negative : Bool) :
    ¬ Oversized
      (int (if negative then -(Numeral.valueOf 10 ds : Int) else Numeral.valueOf 10 ds)) := by
  have hdigits : (Nat.toDigits 10 (Numeral.valueOf 10 ds)).length ≤ Numeral.digitLimit :=
    (Nat.length_toDigits_le_iff (by decide) (by decide)).mpr
      (Nat.lt_of_lt_of_le (Numeral.valueOf_lt h) (Nat.pow_le_pow_right (by decide) hlength))
  rw [not_oversized_int]
  cases negative with
  | true => simpa using hdigits
  | false => simpa using hdigits

theorem not_oversized_list : ¬ Oversized (list xs) ↔ ∀ x ∈ xs, ¬ x.Oversized :=
  ⟨fun h _ hx hs => h (.list hx hs), fun h => fun | .list hx hs => h _ hx hs⟩

theorem not_oversized_tuple : ¬ Oversized (tuple xs) ↔ ∀ x ∈ xs, ¬ x.Oversized :=
  ⟨fun h _ hx hs => h (.tuple hx hs), fun h => fun | .tuple hx hs => h _ hx hs⟩

theorem not_oversized_set : ¬ Oversized (set xs) ↔ ∀ x ∈ xs, ¬ x.Oversized :=
  ⟨fun h _ hx hs => h (.set hx hs), fun h => fun | .set hx hs => h _ hx hs⟩

theorem not_oversized_record :
    ¬ Oversized (record es) ↔ ∀ e ∈ es, ¬ e.1.Oversized ∧ ¬ e.2.Oversized :=
  ⟨fun h _ he => ⟨fun hk => h (.key he hk), fun hv => h (.value he hv)⟩,
    fun h => fun
      | .key he hk => (h _ he).1 hk
      | .value he hv => (h _ he).2 hv⟩

theorem not_oversized_lookup {d : Data} (h : ¬ Oversized (record entries))
    (hl : lookup setting entries = some d) : ¬ d.Oversized := by
  have hall := not_oversized_record.mp h
  clear h
  induction entries using lookup.induct setting with
  | case1 => cases hl
  | case2 value rest =>
    simp only [lookup, if_true] at hl
    cases hl
    exact (hall _ (.head _)).2
  | case3 key value rest hne ih =>
    simp only [lookup, hne, if_false] at hl
    exact ih hl fun e he => hall e (.tail _ he)
  | case4 e rest he ih =>
    rw [lookup.eq_3 _ _ _ he] at hl
    exact ih hl fun e he => hall e (.tail _ he)

mutual

theorem answers_shown : (d : Data) → (Answers d.shown ↔ ¬ d.Oversized)
  | null | bool _ | float _ | text _ | octets _ | date _ | moment _ =>
    ⟨fun _ => nofun, fun _ => answers_ok⟩
  | int n => answers_wholeText.trans not_oversized_int.symm
  | list xs => by
    rw [not_oversized_list, ← answers_shownAll xs]
    exact answers_bind_pure
  | tuple xs => by
    rw [not_oversized_tuple, ← answers_shownAll xs]
    refine answers_bind_of_forall fun parts => ?_
    split
    · exact answers_pure
    · exact answers_pure
  | set [] => ⟨fun _ => not_oversized_set.mpr nofun, fun _ => answers_ok⟩
  | set (x :: xs) => by
    rw [not_oversized_set, ← answers_shownAll (x :: xs)]
    exact answers_bind_pure
  | record es => by
    rw [not_oversized_record, ← answers_shownEntries es]
    exact answers_bind_pure

theorem answers_shownAll :
    (ds : List Data) → (Answers (shownAll ds) ↔ ∀ d ∈ ds, ¬ d.Oversized)
  | [] => by simp [shownAll]
  | d :: ds => by
    rw [List.forall_mem_cons, ← answers_shown d, ← answers_shownAll ds]
    exact answers_bind_and fun _ => answers_bind_pure

theorem answers_shownEntries : (es : List (Data × Data)) →
    (Answers (shownEntries es) ↔ ∀ e ∈ es, ¬ e.1.Oversized ∧ ¬ e.2.Oversized)
  | [] => by simp [shownEntries]
  | (k, v) :: es => by
    rw [List.forall_mem_cons, ← answers_shown k, ← answers_shown v, ← answers_shownEntries es,
      and_assoc]
    exact answers_bind_and fun _ => answers_bind_and fun _ =>
      answers_bind_pure

end

theorem shown_error_iff {d : Data} : d.shown = .error f ↔ f = .digitLimit ∧ d.Oversized :=
  error_iff_of_answers d.shown_fault d.answers_shown

/-- A value whose text would hold a whole number with more digits than are ever written. -/
def Unwritable (d : Data) : Prop := d.shown = .error .digitLimit

theorem unwritable_iff {d : Data} : d.Unwritable ↔ d.Oversized :=
  shown_error_iff.trans (and_iff_right rfl)

theorem unwritable_of_error {d : Data} (h : d.shown = .error f) :
    f = .digitLimit ∧ d.Unwritable := by
  obtain rfl := d.shown_fault f h
  exact ⟨rfl, h⟩

theorem unwritable_pow : (int (10 ^ Numeral.digitLimit : Nat)).Unwritable := by
  refine unwritable_iff.mpr (.int ?_)
  rw [Int.natAbs_natCast, ← Nat.not_le, Nat.length_toDigits_le_iff (by decide) (by decide)]
  exact Nat.lt_irrefl _

theorem answers_toText (d : Data) : Answers d.toText ↔ ¬ d.Oversized := by
  cases d with
  | text _ | date _ | moment _ => exact ⟨fun _ => nofun, fun _ => answers_ok⟩
  | _ => exact answers_shown _

theorem toText_error_iff {d : Data} : d.toText = .error f ↔ f = .digitLimit ∧ d.Oversized :=
  error_iff_of_answers d.toText_fault d.answers_toText

mutual

theorem answers_wireText : (d : Data) → (Answers d.wireText ↔ ¬ d.Oversized)
  | null | bool _ => ⟨fun _ => nofun, fun _ => answers_ok⟩
  | list xs => by
    rw [not_oversized_list, ← answers_wireTexts xs]
    exact answers_bind_pure
  | tuple xs => by
    rw [not_oversized_tuple, ← answers_wireTexts xs]
    exact answers_bind_pure
  | int n => answers_toText (int n)
  | float x => answers_toText (float x)
  | text s => answers_toText (text s)
  | octets os => answers_toText (octets os)
  | set xs => answers_toText (set xs)
  | record es => answers_toText (record es)
  | date day => answers_toText (date day)
  | moment m => answers_toText (moment m)

theorem answers_wireTexts :
    (ds : List Data) → (Answers (wireTexts ds) ↔ ∀ d ∈ ds, ¬ d.Oversized)
  | [] => by simp [wireTexts]
  | d :: ds => by
    rw [List.forall_mem_cons, ← answers_wireText d, ← answers_wireTexts ds]
    exact answers_bind_and fun _ => answers_bind_pure

end

end Data

-- ---------------------------------------------------------------------------
-- Values read from a text
-- ---------------------------------------------------------------------------

theorem Numeral.digitIn?_lt {d : Nat} (h : digitIn? base c = some d) : d < base := by
  have hlt := (Option.filter_eq_some_iff.mp h).2
  exact of_decide_eq_true hlt

theorem Numeral.readWhole_not_oversized (h : readWhole text = .ok n) :
    ¬ (Data.int n).Oversized := by
  unfold readWhole readWholeIn at h
  dsimp only at h
  split at h
  · cases h
  · split at h
    · cases h
    next hlength =>
      split at h
      · cases h
      · cases h
        refine Data.not_oversized_valueOf (fun d hd => ?_) (by simpa using hlength) _
        obtain ⟨c, -, hc⟩ := List.mem_filterMap.mp hd
        exact digitIn?_lt hc

theorem Wire.coerce_not_oversized {part : Data} (h : ¬ part.Oversized) (valueType : Data) :
    ¬ (coerce valueType part).Oversized := by
  unfold coerce
  split
  · unfold numberOrText
    split
    next hn => exact Numeral.readWhole_not_oversized hn
    · split
      · exact nofun
      · exact nofun
  · unfold flagOrText
    dsimp only
    split
    · exact nofun
    · split
      · exact nofun
      · exact nofun
  · exact h

end Criteria
