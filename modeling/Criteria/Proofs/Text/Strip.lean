import Mathlib.Data.List.DropRight
import Criteria.Text.Blank

/-!
# Stripped texts

Stripping takes blank characters away from both ends, so it keeps every character that is not
blank. A text is stripped already if neither end is blank, and two such texts can be put
together with anything between them.
-/

namespace Criteria.Text

variable {cs piece between blanks : List Char} {c : Char}

theorem exists_eq_strip (cs : List Char) : ∃ before after, before.all isBlank = true ∧
    after.all isBlank = true ∧ cs = before ++ (strip cs ++ after) := by
  refine ⟨cs.takeWhile isBlank, (cs.dropWhile isBlank).rtakeWhile isBlank, ?_, ?_, ?_⟩
  · exact List.all_takeWhile
  · exact List.all_eq_true.mpr fun c hc => List.mem_rtakeWhile_imp hc
  · have hend : strip cs ++ (cs.dropWhile isBlank).rtakeWhile isBlank = cs.dropWhile isBlank :=
      List.rdropWhile_append_rtakeWhile
    rw [hend, List.takeWhile_append_dropWhile]

theorem strip_sublist (cs : List Char) : (strip cs).Sublist cs := by
  obtain ⟨before, after, -, -, h⟩ := exists_eq_strip cs
  conv_rhs => rw [h]
  exact (List.sublist_append_left _ _).trans (List.sublist_append_right _ _)

theorem count_strip (hc : isBlank c = false) (cs : List Char) :
    (strip cs).count c = cs.count c := by
  obtain ⟨before, after, hbefore, hafter, h⟩ := exists_eq_strip cs
  have hnone (blanks : List Char) (hb : blanks.all isBlank = true) : blanks.count c = 0 := by
    refine List.count_eq_zero.mpr fun hmem => ?_
    exact Bool.false_ne_true (hc.symm.trans (List.all_eq_true.mp hb c hmem))
  conv_rhs => rw [h]
  simp only [List.count_append, hnone before hbefore, hnone after hafter, Nat.zero_add, Nat.add_zero]

theorem strip_blanks_append (h : blanks.all isBlank = true) (cs : List Char) :
    strip (blanks ++ cs) = strip cs := by
  rw [strip, strip, List.dropWhile_append_of_pos (List.all_eq_true.mp h)]

theorem strip_append_blanks (h : blanks.all isBlank = true) (cs : List Char) :
    strip (cs ++ blanks) = strip cs := by
  have hrev : ∀ c ∈ blanks.reverse, isBlank c = true := by
    simpa using h
  simp only [strip, dropBlanksEnd, List.dropWhile_append]
  split
  next hnil =>
    rw [List.isEmpty_iff.mp hnil, List.dropWhile_eq_nil_iff.mpr (List.all_eq_true.mp h)]
  · rw [List.reverse_append, List.dropWhile_append_of_pos hrev]

theorem strip_eq_self_iff : strip cs = cs ↔
    (∀ c ∈ cs.head?, isBlank c = false) ∧ ∀ c ∈ cs.getLast?, isBlank c = false := by
  have hdrop : cs.dropWhile isBlank = cs ↔ ∀ c ∈ cs.head?, isBlank c = false := by
    cases cs <;> simp [List.dropWhile_eq_self_iff]
  have hlast : cs.rdropWhile isBlank = cs ↔ ∀ c ∈ cs.getLast?, isBlank c = false := by
    rcases List.eq_nil_or_concat cs with rfl | ⟨init, last, rfl⟩ <;>
      simp [List.rdropWhile_eq_self_iff]
  have hstrip : strip cs = (cs.dropWhile isBlank).rdropWhile isBlank := rfl
  rw [← hdrop, ← hlast]
  constructor
  · intro h
    rw [hstrip] at h
    have hle : cs.length ≤ (cs.dropWhile isBlank).length := by
      conv_lhs => rw [← h]
      exact (List.rdropWhile_prefix isBlank _).length_le
    have hd := (List.dropWhile_sublist isBlank).eq_of_length_le hle
    exact ⟨hd, by rwa [hd] at h⟩
  · rintro ⟨hd, hl⟩
    rw [hstrip, hd, hl]

theorem strip_strip (cs : List Char) : strip (strip cs) = strip cs := by
  refine strip_eq_self_iff.mpr ⟨fun c hc => ?first, fun c hc => ?last⟩
  case first =>
    have hfirst : [c] <+: cs.dropWhile isBlank :=
      (List.singleton_prefix_iff_head?_eq_some.mpr hc).trans (List.rdropWhile_prefix isBlank _)
    simpa [List.singleton_prefix_iff_head?_eq_some.mp hfirst] using
      List.head?_dropWhile_not isBlank cs
  case last =>
    obtain ⟨hne, rfl⟩ := List.mem_getLast?_eq_getLast hc
    exact Bool.eq_false_iff.mpr (List.rdropWhile_last_not isBlank _ hne)

theorem strip_append_append (hne : piece ≠ []) (h : strip piece = piece) (hcs : cs ≠ [])
    (h' : strip cs = cs) : strip (piece ++ between ++ cs) = piece ++ between ++ cs := by
  obtain ⟨hhead, -⟩ := strip_eq_self_iff.mp h
  obtain ⟨-, hlast⟩ := strip_eq_self_iff.mp h'
  refine strip_eq_self_iff.mpr ⟨fun c hc => hhead c ?_, fun c hc => hlast c ?_⟩
  · cases piece with
    | nil => exact absurd rfl hne
    | cons => exact hc
  · rwa [List.getLast?_append_of_ne_nil _ hcs] at hc

end Criteria.Text
