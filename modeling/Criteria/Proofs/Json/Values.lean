import Criteria.Proofs.Data.Written
import Criteria.Proofs.Json.RoundTrip

/-!
# What a JSON text holds

Reading ends with a value, at bad syntax or at a whole number with more digits than are ever
written (`Reads`). So every value that is read can be written again (`read_ok`), and a number
that is too long is the only fault (`read_fault`); a text of that many digits is one
(`read_tooLong`). How deep lists and records may be nested is not limited.
-/

namespace Criteria

namespace Data

variable {p : Data → Prop} {es : List (Data × Data)} {k v : Data}

theorem forall_mem_put (h : ∀ e ∈ es, p e.1 ∧ p e.2) (hk : p k) (hv : p v) :
    ∀ e ∈ put k v es, p e.1 ∧ p e.2 := by
  induction es with
  | nil => exact List.forall_mem_cons.mpr ⟨⟨hk, hv⟩, nofun⟩
  | cons e es ih =>
    obtain ⟨he, hes⟩ := List.forall_mem_cons.mp h
    unfold put
    split
    · exact List.forall_mem_cons.mpr ⟨⟨he.1, hv⟩, hes⟩
    · exact List.forall_mem_cons.mpr ⟨he, ih hes⟩

theorem forall_mem_recordOf (h : ∀ e ∈ es, p e.1 ∧ p e.2) : ∀ e ∈ recordOf es, p e.1 ∧ p e.2 := by
  -- The induction is on the entries that are still to be put after those in front.
  suffices ∀ front : List (Data × Data), (∀ e ∈ front, p e.1 ∧ p e.2) →
      ∀ e ∈ es.foldl (fun es e => put e.1 e.2 es) front, p e.1 ∧ p e.2 from this [] (by simp)
  induction es with
  | nil => exact fun _ hfront => hfront
  | cons e es ih =>
    obtain ⟨he, hes⟩ := List.forall_mem_cons.mp h
    exact fun front hfront => ih hes _ (forall_mem_put hfront he.1 he.2)

end Data

namespace Json

/-- Reading gives something good, or it stops at bad syntax or at a number that is too long. -/
inductive Reads {α : Type} (good : α → Prop) : Except Stop α → Prop
  | value (h : good a) : Reads good (.ok a)
  | bad : Reads good (.error (.bad reason left))
  | tooLong (h : Numeral.digitLimit < n) : Reads good (.error (.numeral (.tooLong n)))

variable {cs rest : List Char} {d : Data} {c : Char}

theorem Reads.bind {good : α → Prop} {good' : β → Prop} {x : Except Stop α}
    {f : α → Except Stop β} (hx : Reads good x) (hf : ∀ a, good a → Reads good' (f a)) :
    Reads good' (x >>= f) := by
  cases hx with
  | value h => exact hf _ h
  | bad => exact .bad
  | tooLong h => exact .tooLong h

-- ---------------------------------------------------------------------------
-- Strings
-- ---------------------------------------------------------------------------

theorem unicodeEscape_reads (cs : List Char) : Reads (fun _ => True) (unicodeEscape cs) := by
  unfold unicodeEscape
  split
  · exact .bad
  · split
    · split
      · exact .value trivial
      · split
        · exact .bad
        · split
          · exact .value trivial
          · exact .value trivial
    · exact .value trivial

theorem stringBody_reads (start fuel : Nat) (cs : List Char) :
    Reads (fun _ => True) (stringBody start fuel cs) := by
  induction fuel generalizing cs with
  | zero => exact .bad
  | succ fuel ih =>
    unfold stringBody
    split
    · exact .bad
    · exact .value trivial
    · exact .bad
    · exact (unicodeEscape_reads _).bind fun _ _ => (ih _).bind fun _ _ => .value trivial
    · split
      · exact .bad
      · exact (ih _).bind fun _ _ => .value trivial
    · split
      · exact .bad
      · exact (ih _).bind fun _ _ => .value trivial

theorem stringAfterQuote_reads (cs : List Char) : Reads (fun _ => True) (stringAfterQuote cs) :=
  (stringBody_reads _ _ cs).bind fun _ _ => .value trivial

-- ---------------------------------------------------------------------------
-- Words and numbers
-- ---------------------------------------------------------------------------

theorem words_not_oversized : ∀ w ∈ words, ¬ w.2.Oversized := by
  intro w hw h
  simp only [words, List.mem_cons, List.not_mem_nil, or_false] at hw
  rcases hw with rfl | rfl | rfl | rfl | rfl | rfl <;> cases h

theorem word?_not_oversized (h : word? cs = some (d, rest)) : ¬ d.Oversized := by
  obtain ⟨⟨name, word⟩, hw, h⟩ := List.exists_of_findSome?_eq_some h
  dsimp only at h
  split at h
  · cases h
    exact words_not_oversized _ hw
  · cases h

theorem digitValue_lt (hc : Numeral.isDigitChar c = true) : c.toNat - '0'.toNat < 10 := by
  simp only [Numeral.isDigitChar, Bool.and_eq_true, decide_eq_true_eq] at hc
  have h : c.toNat ≤ '9'.toNat := hc.2
  exact Nat.lt_of_le_of_lt (Nat.sub_le_sub_right h _) (by decide)

theorem takeWholePart_digits (hc : c ∈ (takeWholePart cs).1) : Numeral.isDigitChar c = true := by
  unfold takeWholePart at hc
  split at hc
  · obtain rfl := List.mem_singleton.mp hc
    rfl
  · exact List.all_eq_true.mp List.all_takeWhile c hc

theorem number?_reads (cs : List Char) : Reads (fun out => ¬ out.1.Oversized) (number? cs) := by
  unfold number?
  split
  next negative body _ =>
    have hdigits : ∀ d ∈ (takeWholePart body).1.map fun c => c.toNat - '0'.toNat, d < 10 := by
      intro d hd
      obtain ⟨c, hc, rfl⟩ := List.mem_map.mp hd
      exact digitValue_lt (takeWholePart_digits hc)
    generalize takeWholePart body = parts at hdigits
    obtain ⟨whole, rest⟩ := parts
    dsimp only at hdigits ⊢
    split
    · exact .bad
    · split
      · split
        next h => exact .tooLong h
        next h =>
          refine .value (Data.not_oversized_valueOf hdigits ?_ negative)
          rw [List.length_map]
          exact Nat.not_lt.mp h
      · split
        · exact .value nofun
        · exact .bad

-- ---------------------------------------------------------------------------
-- Values
-- ---------------------------------------------------------------------------

mutual

theorem readValue_reads (fuel : Nat) (cs : List Char) :
    Reads (fun out => ¬ out.1.Oversized) (readValue fuel cs) := by
  cases fuel with
  | zero => exact .bad
  | succ fuel =>
    unfold readValue
    split
    · exact .bad
    · exact (stringAfterQuote_reads _).bind fun _ _ => .value nofun
    · split
      · exact .value (Data.not_oversized_list.mpr nofun)
      · exact (readItems_reads fuel _).bind fun _ h => .value (Data.not_oversized_list.mpr h)
    · split
      · exact .value (Data.not_oversized_record.mpr nofun)
      · refine (readEntries_reads fuel _).bind fun _ h => .value ?_
        exact Data.not_oversized_record.mpr
          (Data.forall_mem_recordOf (p := fun d => ¬ d.Oversized) h)
    · split
      next h => exact .value (word?_not_oversized h)
      next => exact number?_reads _

theorem readItems_reads (fuel : Nat) (cs : List Char) :
    Reads (fun out => ∀ d ∈ out.1, ¬ d.Oversized) (readItems fuel cs) := by
  cases fuel with
  | zero => exact .bad
  | succ fuel =>
    refine (readValue_reads fuel cs).bind fun (d, rest) hd => ?_
    dsimp only
    split
    · exact .value (List.forall_mem_cons.mpr ⟨hd, nofun⟩)
    · exact (readItems_reads fuel _).bind fun _ hds => .value (List.forall_mem_cons.mpr ⟨hd, hds⟩)
    · exact .bad

theorem readEntries_reads (fuel : Nat) (cs : List Char) :
    Reads (fun out => ∀ e ∈ out.1, ¬ e.1.Oversized ∧ ¬ e.2.Oversized) (readEntries fuel cs) := by
  cases fuel with
  | zero => exact .bad
  | succ fuel =>
    unfold readEntries
    split
    · refine (stringAfterQuote_reads _).bind fun (key, rest) _ => ?_
      dsimp only
      split
      · refine (readValue_reads fuel _).bind fun (d, rest) hd => ?_
        dsimp only
        split
        · exact .value (List.forall_mem_cons.mpr ⟨⟨nofun, hd⟩, nofun⟩)
        · exact (readEntries_reads fuel _).bind fun _ hes =>
            .value (List.forall_mem_cons.mpr ⟨⟨nofun, hd⟩, hes⟩)
        · exact .bad
      · exact .bad
    · exact .bad

end

theorem readText_reads (cs : List Char) : Reads (fun d => ¬ d.Oversized) (readText cs) := by
  unfold readText
  split
  · exact .bad
  · refine (readValue_reads _ _).bind fun (d, rest) h => ?_
    dsimp only
    split
    · exact .value h
    · exact .bad

/-- What is read from a text can be written. -/
theorem read_ok {text : String} (h : read text = .ok d) : ¬ d.Oversized := by
  have hread := readText_reads text.toList
  unfold read at h
  dsimp only at h
  split at h
  next d' hd =>
    cases h
    rw [hd] at hread
    cases hread with
    | value hd => exact hd
  · cases h
  · cases h

theorem read_fault {text : String} (h : read text = .error (.fault f)) :
    ∃ n, f = .numeral (.tooLong n) ∧ Numeral.digitLimit < n := by
  have hread := readText_reads text.toList
  unfold read at h
  dsimp only at h
  split at h
  · cases h
  · cases h
  next e he =>
    cases h
    rw [he] at hread
    cases hread with
    | tooLong hn => exact ⟨_, rfl, hn⟩

-- ---------------------------------------------------------------------------
-- Numbers that are too long
-- ---------------------------------------------------------------------------

section
variable (hdigits : ∀ c ∈ cs, Numeral.isDigitChar c = true) (hzero : cs.head? ≠ some '0')
  (hlong : Numeral.digitLimit < cs.length)
include hdigits hzero hlong

theorem number?_tooLong : number? cs = .error (.numeral (.tooLong cs.length)) := by
  have hwhole : takeWholePart (cs ++ []) = (cs, []) := by
    rw [takeWholePart.eq_2 _ (fun _ h => hzero (by simpa using congrArg List.head? h)),
      List.takeWhile_append_of_pos hdigits, List.dropWhile_append_of_pos hdigits]
    simp
  rw [List.append_nil] at hwhole
  have hne : cs ≠ [] := List.ne_nil_of_length_pos (Nat.zero_lt_of_lt hlong)
  unfold number?
  split
  next negative body hsign =>
    split at hsign
    next => exact absurd (hdigits '-' (.head _)) (by decide)
    next =>
      obtain ⟨rfl, rfl⟩ := Prod.mk.inj hsign
      simp [hwhole, takeFractionPart, takeExponentPart, hne, hlong]

theorem read_tooLong :
    read (String.ofList cs) = .error (.fault (.numeral (.tooLong cs.length))) := by
  have hnumber := number?_tooLong hdigits hzero hlong
  obtain ⟨c, tail, rfl⟩ :=
    List.exists_cons_of_ne_nil (List.ne_nil_of_length_pos (Nat.zero_lt_of_lt hlong))
  have hc : Numeral.isDigitChar c = true := hdigits c (.head _)
  obtain ⟨hbegins, hbare⟩ := numeral_bare (.inr hc)
  have hb : Begins (c :: tail) := ⟨c, tail, rfl, hbegins⟩
  have htext : readText (c :: tail) = .error (.numeral (.tooLong (c :: tail).length)) := by
    unfold readText
    split
    next h => exact absurd h (hb.ne_cons rfl)
    next =>
      rw [skipSpaces_begins hb]
      refine bind_error_first ?_
      rw [readValue_bare hbare, (word?_digit hc).1]
      exact hnumber
  simp only [read, String.toList_ofList, htext]

end

end Json

end Criteria
