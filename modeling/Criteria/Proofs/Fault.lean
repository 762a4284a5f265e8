import Mathlib.Data.List.Forall2
import Criteria.Data.Text

/-!
# Answers and faults

An operation that may end in a fault is a chain of such operations; `bind_ok` and
`bind_error` take a chain apart. Writing a value as text has only one fault: a whole number
with more digits than are ever written.
-/

namespace Criteria

theorem bind_ok {x : Except ε α} {f : α → Except ε β} :
    x >>= f = .ok b ↔ ∃ a, x = .ok a ∧ f a = .ok b := by
  cases x with
  | ok a => exact ⟨fun h => ⟨a, rfl, h⟩, fun ⟨_, hx, hf⟩ => Except.ok.inj hx ▸ hf⟩
  | error e => exact ⟨fun h => (nomatch h), fun ⟨_, hx, _⟩ => (nomatch hx)⟩

theorem bind_error {x : Except ε α} {f : α → Except ε β} :
    x >>= f = .error e ↔ x = .error e ∨ ∃ a, x = .ok a ∧ f a = .error e := by
  cases x <;> simp [bind, Except.bind]

theorem bind_error_first {x : Except ε α} {f : α → Except ε β} (h : x = .error e) :
    x >>= f = .error e :=
  bind_error.mpr (.inl h)

theorem bind_error_later {x : Except ε α} {f : α → Except ε β} (hx : x = .ok a)
    (h : f a = .error e) : x >>= f = .error e :=
  bind_error.mpr (.inr ⟨a, hx, h⟩)

theorem map_ok {x : Except ε α} {f : α → β} : f <$> x = .ok b ↔ ∃ a, x = .ok a ∧ f a = b := by
  cases x with
  | ok a => exact ⟨fun h => ⟨a, rfl, Except.ok.inj h⟩, fun ⟨_, hx, hf⟩ => by cases hx; exact hf ▸ rfl⟩
  | error e => exact ⟨nofun, nofun⟩

theorem map_error {x : Except ε α} {f : α → β} : f <$> x = .error e ↔ x = .error e := by
  cases x with
  | ok a => exact ⟨nofun, nofun⟩
  | error e' => exact ⟨fun h => Except.error.inj h ▸ rfl, fun h => Except.error.inj h ▸ rfl⟩

theorem pure_ok : (pure a : Except ε α) = .ok b ↔ a = b :=
  ⟨Except.ok.inj, congrArg Except.ok⟩

@[simp] theorem pure_ne_error : (pure a : Except ε α) ≠ .error e := nofun

-- ---------------------------------------------------------------------------
-- Operations that answer
-- ---------------------------------------------------------------------------

def Answers (x : Except ε α) : Prop := ∃ a, x = .ok a

section
variable {x : Except ε α} {f : α → Except ε β}

@[simp] theorem answers_ok : Answers (.ok a : Except ε α) := ⟨a, rfl⟩

@[simp] theorem answers_pure : Answers (pure a : Except ε α) := ⟨a, rfl⟩

@[simp] theorem not_answers_error : ¬ Answers (.error e : Except ε α) := fun ⟨_, h⟩ => nomatch h

theorem answers_or_error (x : Except ε α) : Answers x ∨ ∃ e, x = .error e := by
  cases x with
  | ok a => exact .inl answers_ok
  | error e => exact .inr ⟨e, rfl⟩

theorem answers_bind : Answers (x >>= f) ↔ ∃ a, x = .ok a ∧ Answers (f a) := by
  simp only [Answers, bind_ok]
  constructor
  · rintro ⟨b, a, hx, hf⟩
    exact ⟨a, hx, b, hf⟩
  · rintro ⟨a, hx, b, hf⟩
    exact ⟨b, a, hx, hf⟩

theorem answers_bind_of_forall (hf : ∀ a, Answers (f a)) : Answers (x >>= f) ↔ Answers x := by
  rw [answers_bind]
  exact ⟨fun ⟨a, hx, _⟩ => ⟨a, hx⟩, fun ⟨a, hx⟩ => ⟨a, hx, hf a⟩⟩

theorem answers_bind_pure {g : α → β} : Answers (x >>= fun a => pure (g a)) ↔ Answers x :=
  answers_bind_of_forall fun _ => answers_pure

theorem bind_error_of_answers (hf : ∀ a, Answers (f a)) : x >>= f = .error e ↔ x = .error e := by
  rw [bind_error]
  refine ⟨fun h => h.elim id fun ⟨a, _, h⟩ => ?_, .inl⟩
  exact absurd (h ▸ hf a) not_answers_error

theorem answers_bind_and {p : Prop} (hf : ∀ a, Answers (f a) ↔ p) :
    Answers (x >>= f) ↔ Answers x ∧ p := by
  rw [answers_bind]
  exact ⟨fun ⟨a, hx, h⟩ => ⟨⟨a, hx⟩, (hf a).mp h⟩, fun ⟨⟨a, hx⟩, h⟩ => ⟨a, hx, (hf a).mpr h⟩⟩

theorem answers_mapM {xs : List α} : Answers (xs.mapM f) ↔ ∀ x ∈ xs, Answers (f x) := by
  induction xs with
  | nil => simp
  | cons x xs ih =>
    rw [List.mapM_cons, List.forall_mem_cons, ← ih]
    exact answers_bind_and fun _ => answers_bind_of_forall fun _ => answers_pure

theorem mapM_error_iff {xs : List α} : xs.mapM f = .error e ↔
    ∃ before x after, xs = before ++ x :: after ∧ Answers (before.mapM f) ∧ f x = .error e := by
  simp only [answers_mapM]
  constructor
  · intro h
    induction xs with
    | nil => cases h
    | cons x xs ih =>
      rw [List.mapM_cons] at h
      rcases bind_error.mp h with hx | ⟨b, hb, h⟩
      · exact ⟨[], x, xs, rfl, nofun, hx⟩
      · rcases bind_error.mp h with h | ⟨bs, -, h⟩
        · obtain ⟨before, y, after, rfl, hall, hy⟩ := ih h
          exact ⟨x :: before, y, after, rfl, List.forall_mem_cons.mpr ⟨⟨b, hb⟩, hall⟩, hy⟩
        · cases h
  · rintro ⟨before, x, after, rfl, hall, hx⟩
    induction before with
    | nil =>
      rw [List.nil_append, List.mapM_cons]
      exact bind_error.mpr (.inl hx)
    | cons y before ih =>
      obtain ⟨⟨b, hb⟩, hall⟩ := List.forall_mem_cons.mp hall
      rw [List.cons_append, List.mapM_cons]
      exact bind_error.mpr (.inr ⟨b, hb, bind_error.mpr (.inl (ih hall))⟩)

theorem mapM_forall₂ {xs : List α} {ys : List β} (h : xs.mapM f = .ok ys) :
    List.Forall₂ (fun x y => f x = .ok y) xs ys := by
  induction xs generalizing ys with
  | nil =>
    rw [List.mapM_nil, pure_ok] at h
    exact h ▸ .nil
  | cons x xs ih =>
    rw [List.mapM_cons] at h
    obtain ⟨y, hy, h⟩ := bind_ok.mp h
    obtain ⟨ys, hys, h⟩ := bind_ok.mp h
    exact pure_ok.mp h ▸ .cons hy (ih hys)

theorem mem_mapM_iff {xs : List α} {ys : List β} (h : xs.mapM f = .ok ys) :
    y ∈ ys ↔ ∃ x ∈ xs, f x = .ok y := by
  have hall := mapM_forall₂ h
  clear h
  induction hall with
  | nil => simp
  | cons hxy _ ih => simp [ih, hxy, eq_comm]

end

-- ---------------------------------------------------------------------------
-- The text of a value
-- ---------------------------------------------------------------------------

/-- The only fault that can happen is a number that is too long to be written. -/
def OnlyDigitLimit (x : Except Fault α) : Prop := ∀ f, x = .error f → f = .digitLimit

namespace OnlyDigitLimit

theorem ok : OnlyDigitLimit (.ok a : Except Fault α) := fun _ h => nomatch h

theorem pure : OnlyDigitLimit (Pure.pure a : Except Fault α) := fun _ h => nomatch h

theorem bind {x : Except Fault α} {f : α → Except Fault β} (hx : OnlyDigitLimit x)
    (hf : ∀ a, OnlyDigitLimit (f a)) : OnlyDigitLimit (x >>= f) := by
  intro e h
  rcases bind_error.mp h with h | ⟨a, -, h⟩
  · exact hx e h
  · exact hf a e h

theorem mapM {f : α → Except Fault β} {xs : List α} (hf : ∀ x, OnlyDigitLimit (f x)) :
    OnlyDigitLimit (xs.mapM f) := by
  intro e h
  obtain ⟨-, x, -, -, -, hx⟩ := mapM_error_iff.mp h
  exact hf x e hx

end OnlyDigitLimit

theorem error_iff_of_answers {x : Except Fault α} {p : Prop} (hx : OnlyDigitLimit x)
    (ha : Answers x ↔ ¬ p) : x = .error f ↔ f = .digitLimit ∧ p := by
  constructor
  · rintro rfl
    exact ⟨hx f rfl, Classical.not_not.mp (mt ha.mpr not_answers_error)⟩
  · rintro ⟨rfl, hp⟩
    rcases answers_or_error x with h | ⟨f, rfl⟩
    · exact absurd hp (ha.mp h)
    · rw [hx f rfl]

theorem wholeText_fault (n : Int) : OnlyDigitLimit (wholeText n) := by
  intro f h
  unfold wholeText at h
  split at h
  · cases h
  · exact (Except.error.inj h).symm

namespace Data

mutual

theorem shown_fault : (d : Data) → OnlyDigitLimit d.shown
  | null | bool _ | float _ | text _ | octets _ | date _ | moment _ => .ok
  | int n => wholeText_fault n
  | list xs => .bind (shownAll_fault xs) fun _ => .pure
  | tuple xs => .bind (shownAll_fault xs) fun parts => by
    split
    · exact .pure
    · exact .pure
  | set [] => .ok
  | set (x :: xs) => .bind (shownAll_fault (x :: xs)) fun _ => .pure
  | record es => .bind (shownEntries_fault es) fun _ => .pure

theorem shownAll_fault : (ds : List Data) → OnlyDigitLimit (shownAll ds)
  | [] => .ok
  | d :: ds => .bind (shown_fault d) fun _ => .bind (shownAll_fault ds) fun _ => .pure

theorem shownEntries_fault : (es : List (Data × Data)) → OnlyDigitLimit (shownEntries es)
  | [] => .ok
  | (k, v) :: es =>
    .bind (shown_fault k) fun _ => .bind (shown_fault v) fun _ =>
      .bind (shownEntries_fault es) fun _ => .pure

end

theorem toText_fault (d : Data) : OnlyDigitLimit d.toText := by
  cases d with
  | text _ | date _ | moment _ => exact .ok
  | _ => exact shown_fault _

end Data

end Criteria
