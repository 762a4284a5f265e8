import Mathlib.Data.List.Forall2
import Criteria.Text.Alphanumeric
import Criteria.Text.Blank
import Criteria.Text.Case

/-!
# Words of a text

The words of a text are the runs of characters in it that are not blank. Letters and numbers
are never blank, and ignoring case makes no blank one of them. So a text that spells a word
stands in another one between blanks only as one of its words.
-/

namespace Criteria.Text

def words (cs : List Char) : List (List Char) :=
  (cs.splitOnP isBlank).filter fun w => !w.isEmpty

def blankRanges : Ranges :=
  [(9, 13), (28, 32), (0x85, 0x85), (0xA0, 0xA0), (0x1680, 0x1680), (0x2000, 0x200A),
    (0x2028, 0x2028), (0x2029, 0x2029), (0x202F, 0x202F), (0x205F, 0x205F), (0x3000, 0x3000)]

variable {c p b : Char} {w front after pattern : List Char}

-- ---------------------------------------------------------------------------
-- Blank characters
-- ---------------------------------------------------------------------------

theorem isBlank_eq_contains (c : Char) : isBlank c = blankRanges.contains c := by
  have hpoint (n : Nat) : (c.toNat == n) = (decide (n ≤ c.toNat) && decide (c.toNat ≤ n)) := by
    rw [Bool.eq_iff_iff]
    simp
    omega
  simp only [isBlank, blankRanges, Ranges.contains, List.any_cons, List.any_nil, hpoint,
    Bool.or_assoc, Bool.or_false]

theorem isBlank_iff : isBlank c = true ↔ ∃ r ∈ blankRanges, r.1 ≤ c.toNat ∧ c.toNat ≤ r.2 := by
  simp [isBlank_eq_contains, Ranges.contains]

theorem blankRanges_pos : ∀ r ∈ blankRanges, 0 < r.1 := by
  decide

theorem blank_ascii : ∀ n < 128, isBlank (Char.ofNat n).toLower = isBlank (Char.ofNat n) ∧
    ((Char.ofNat n).isAlphanum = true → isBlank (Char.ofNat n) = false) := by
  decide

theorem alphanumericRanges_not_blank : ∀ range ∈ alphanumericRanges, ∀ r ∈ blankRanges,
    r.2 < range.1 ∨ range.2 < r.1 := by
  decide +kernel

theorem lowercaseRuns_not_blank : ∀ run ∈ lowercaseRuns, ∀ r ∈ blankRanges,
    (r.2 < run.first ∨ run.last < r.1) ∧
      (r.2 < run.first + run.shift ∨ run.last + run.shift < r.1) := by
  decide +kernel

theorem sharedCapitals_not_blank : ∀ entry ∈ sharedCapitals, ∀ code ∈ entry.2,
    isBlank (Char.ofNat code) = false := by
  decide

theorem toNat_ofNat_blank (h : isBlank (Char.ofNat n) = true) : (Char.ofNat n).toNat = n := by
  by_cases hn : n.isValidChar
  · rw [Char.ofNat, dif_pos hn]
    rfl
  · simp [Char.ofNat, hn, isBlank, Char.toNat] at h

theorem not_blank_ofNat (h : ∀ r ∈ blankRanges, r.2 < n ∨ n < r.1) :
    isBlank (Char.ofNat n) = false := by
  refine Bool.eq_false_iff.mpr fun hb => ?_
  obtain ⟨r, hr, hlow, hhigh⟩ := isBlank_iff.mp hb
  rw [toNat_ofNat_blank hb] at hlow hhigh
  have hapart := h r hr
  omega

theorem not_blank_of_apart (h : ∀ r ∈ blankRanges, r.2 < c.toNat ∨ c.toNat < r.1) :
    isBlank c = false := by
  rw [← Char.ofNat_toNat c]
  exact not_blank_ofNat h

theorem isBlank_of_isAlphanumeric (h : isAlphanumeric c = true) : isBlank c = false := by
  unfold isAlphanumeric at h
  split at h
  next hc => simpa [h] using (blank_ascii c.toNat hc).2
  · simp only [Ranges.contains, List.any_eq_true, Bool.and_eq_true, decide_eq_true_eq] at h
    obtain ⟨range, hrange, hfirst, hlast⟩ := h
    refine not_blank_of_apart fun r hr => ?_
    have hapart := alphanumericRanges_not_blank range hrange r hr
    omega

theorem not_blank_of_image? (h : image? lowercaseRuns c = some p) :
    isBlank c = false ∧ isBlank p = false := by
  obtain ⟨run, hrun, himage⟩ := List.exists_of_findSome?_eq_some h
  simp only [Run.image?, Option.ite_none_right_eq_some, Option.some.injEq] at himage
  obtain ⟨⟨hfirst, hlast, -⟩, rfl⟩ := himage
  constructor
  · refine not_blank_of_apart fun r hr => ?_
    obtain ⟨hdomain, -⟩ := lowercaseRuns_not_blank run hrun r hr
    omega
  · refine not_blank_ofNat fun r hr => ?_
    obtain ⟨-, hrange⟩ := lowercaseRuns_not_blank run hrun r hr
    have hpos : 0 < r.1 := blankRanges_pos r hr
    omega

theorem isBlank_lowerChar (c : Char) : isBlank (lowerChar c) = isBlank c := by
  unfold lowerChar
  split
  next hc => simpa using (blank_ascii c.toNat hc).1
  · split
    next h => rw [h]; decide
    · cases hi : image? lowercaseRuns c with
      | none => rfl
      | some x => rw [(not_blank_of_image? hi).1, Option.getD_some, (not_blank_of_image? hi).2]

theorem not_blank_of_sameIgnoringCase (hp : isAlphanumeric p = true)
    (h : sameIgnoringCase p c = true) : isBlank c = false := by
  have hsmall : isBlank (lowerChar p) = false := by
    rw [isBlank_lowerChar, isBlank_of_isAlphanumeric hp]
  have hmem : lowerChar c ∈ caseVariants p := List.contains_iff_mem.mp h
  rw [← isBlank_lowerChar]
  dsimp only [caseVariants] at hmem
  split at hmem
  next entry codes hfind =>
    rcases List.mem_cons.mp hmem with hc | hc
    · rw [hc, hsmall]
    · obtain ⟨code, hcode, hc⟩ := List.mem_map.mp hc
      rw [← hc, sharedCapitals_not_blank _ (List.mem_of_find?_eq_some hfind) code hcode]
  · rw [List.mem_singleton.mp hmem, hsmall]

theorem not_blank_of_word (hp : isWord pattern = true)
    (h : List.Forall₂ (fun p c => sameIgnoringCase p c = true) pattern w) :
    ∀ c ∈ w, isBlank c = false := by
  simp only [isWord, Bool.and_eq_true, List.all_eq_true] at hp
  intro c hc
  obtain ⟨k, hk, rfl⟩ := List.getElem_of_mem hc
  have hk' : k < pattern.length := h.length_eq ▸ hk
  exact not_blank_of_sameIgnoringCase (hp.2 _ (List.getElem_mem hk')) (h.get hk' hk)

theorem sameIgnoringCase_self (c : Char) : sameIgnoringCase c c = true := by
  refine List.contains_iff_mem.mpr ?_
  dsimp only [caseVariants]
  split <;> exact List.mem_cons_self

-- ---------------------------------------------------------------------------
-- Words
-- ---------------------------------------------------------------------------

/-- What stands between blanks without a blank in it is a word. -/
theorem mem_words (hb : isBlank b = true) (hne : w ≠ []) (hw : ∀ c ∈ w, isBlank c = false)
    (hafter : ∀ c ∈ after.head?, isBlank c = true) : w ∈ words (front ++ b :: (w ++ after)) := by
  have hsplit : w ∈ (w ++ after).splitOnP isBlank := by
    cases after with
    | nil => rw [List.append_nil, List.splitOnP_eq_singleton hw]; exact List.mem_singleton_self w
    | cons c after =>
      rw [List.splitOnP_append_cons_of_forall_mem hw c (hafter c rfl)]
      exact List.mem_cons_self
  rw [words, List.mem_filter, List.splitOnP_append_cons front _ hb]
  exact ⟨List.mem_append_right _ hsplit, by simpa using hne⟩

end Criteria.Text
