import Criteria.Text.Alphanumeric
import Criteria.Text.Blank
import Criteria.Text.Case

/-!
# Punctuation marks and case

The visible ASCII characters that are neither letters nor digits have one form only: no other
character has one of them for its small form, and none of them counts as another one. So a mark
is found as itself and as nothing else when case is ignored.
-/

namespace Criteria.Text

def isMark (c : Char) : Bool :=
  0x21 ≤ c.toNat && c.toNat < 0x7F && !c.isAlphanum

variable {c m p : Char} {n : Nat}

theorem isMark_bounds (h : isMark m = true) : 0x21 ≤ m.toNat ∧ m.toNat < 0x7F := by
  simp only [isMark, Bool.and_eq_true, decide_eq_true_eq] at h
  exact h.1

theorem isBlank_mark (h : isMark m = true) : isBlank m = false := by
  have hb := isMark_bounds h
  simp [isBlank]
  omega

theorem isWord_mark (h : isMark m = true) : isWord [m] = false := by
  have hb := isMark_bounds h
  have hascii : m.toNat < 128 := by omega
  simp only [isMark, Bool.and_eq_true, Bool.not_eq_true'] at h
  simp [isWord, isAlphanumeric, hascii, h.2]

theorem toNat_ofNat_mark (h : isMark (Char.ofNat n) = true) : (Char.ofNat n).toNat = n := by
  obtain ⟨hlow, -⟩ := isMark_bounds h
  by_cases hn : n.isValidChar
  · rw [Char.ofNat, dif_pos hn]
    rfl
  · simp [Char.ofNat, hn, Char.toNat] at hlow

-- ---------------------------------------------------------------------------
-- Small forms
-- ---------------------------------------------------------------------------

theorem toLower_ascii : ∀ n < 128,
    isMark (Char.ofNat n) = true ∨ isMark (Char.ofNat n).toLower = true →
      (Char.ofNat n).toLower = Char.ofNat n := by
  decide

theorem toLower_eq_mark_iff (hc : c.toNat < 128) (h : isMark m = true) :
    c.toLower = m ↔ c = m := by
  have hsame : isMark c = true ∨ isMark c.toLower = true → c.toLower = c := by
    simpa using toLower_ascii c.toNat hc
  constructor
  · rintro rfl
    exact (hsame (.inr h)).symm
  · rintro rfl
    exact hsame (.inl h)

/-- Beyond ASCII only the Kelvin sign has a small form within it. -/
theorem lowercaseRuns_beyond : ∀ run ∈ lowercaseRuns, run.last < 128 ∨
    128 ≤ run.first + run.shift ∨ run.first = 0x212A ∧ run.last = 0x212A ∧ run.shift = -8383 := by
  decide +kernel

theorem image?_lowercase_mark (hc : 128 ≤ c.toNat) (h : image? lowercaseRuns c = some m) :
    isMark m = false := by
  obtain ⟨run, hrun, himage⟩ := List.exists_of_findSome?_eq_some h
  simp only [Run.image?, Option.ite_none_right_eq_some, Option.some.injEq] at himage
  obtain ⟨⟨hfirst, hlast, -⟩, rfl⟩ := himage
  refine Bool.eq_false_iff.mpr fun hm => ?_
  have hb := isMark_bounds hm
  rw [toNat_ofNat_mark hm] at hb
  rcases lowercaseRuns_beyond run hrun with hascii | hshift | ⟨hf, hl, hs⟩
  · omega
  · omega
  · obtain rfl : c = Char.ofNat 0x212A := Char.toNat_inj.mp (show c.toNat = 0x212A by omega)
    rw [hs] at hm
    exact absurd hm (by decide)

theorem lowerChar_eq_mark_iff (h : isMark m = true) : lowerChar c = m ↔ c = m := by
  have hm : m.toNat < 128 := by
    have hb := isMark_bounds h
    omega
  unfold lowerChar
  split
  next hc => exact toLower_eq_mark_iff hc h
  next hc =>
    have hne : c ≠ m := by
      rintro rfl
      exact hc hm
    refine iff_of_false (fun hl => ?_) hne
    split at hl
    · exact absurd h (by rw [← hl]; decide)
    · cases hi : image? lowercaseRuns c with
      | none => exact hne (by simpa [hi] using hl)
      | some x =>
        obtain rfl : x = m := by simpa [hi] using hl
        exact absurd h (by simp [image?_lowercase_mark (by omega) hi])

theorem lowerChar_mark (h : isMark m = true) : lowerChar m = m :=
  (lowerChar_eq_mark_iff h).mpr rfl

-- ---------------------------------------------------------------------------
-- Comparing
-- ---------------------------------------------------------------------------

theorem sharedCapitals_not_mark : ∀ entry ∈ sharedCapitals, isMark (Char.ofNat entry.1) = false ∧
    ∀ code ∈ entry.2, isMark (Char.ofNat code) = false := by
  decide

theorem mem_caseVariants_mark_iff (h : isMark m = true) : m ∈ caseVariants p ↔ p = m := by
  rw [← lowerChar_eq_mark_iff h]
  dsimp only [caseVariants]
  split
  next entry codes hfind =>
    obtain ⟨-, hcodes⟩ := sharedCapitals_not_mark _ (List.mem_of_find?_eq_some hfind)
    have hnone : m ∉ codes.map Char.ofNat := by
      intro hm
      obtain ⟨code, hcode, rfl⟩ := List.mem_map.mp hm
      exact absurd h (by simp [hcodes code hcode])
    simp [hnone, eq_comm]
  · simp [eq_comm]

theorem caseVariants_mark (h : isMark m = true) : caseVariants m = [m] := by
  have hnone : sharedCapitals.find? (·.1 == m.toNat) = none := by
    refine List.find?_eq_none.mpr fun entry hentry heq => ?_
    have hcode : entry.1 = m.toNat := by simpa using heq
    have hmark := (sharedCapitals_not_mark entry hentry).1
    rw [hcode, Char.ofNat_toNat, h] at hmark
    cases hmark
  simp only [caseVariants, lowerChar_mark h, hnone]

/-- Nothing but a mark itself counts as it, and it counts as nothing else. -/
theorem sameIgnoringCase_mark_iff (h : isMark m = true) : sameIgnoringCase m c = true ↔ c = m := by
  simp [sameIgnoringCase, caseVariants_mark h, lowerChar_eq_mark_iff h]

theorem sameIgnoringCase_iff_mark (h : isMark m = true) : sameIgnoringCase p m = true ↔ p = m := by
  simp [sameIgnoringCase, lowerChar_mark h, mem_caseVariants_mark_iff h]

end Criteria.Text
