import Criteria.Text.Utf8

/-!
# UTF-8 octets and back

The octets of a character lead back to it and to nothing else, whatever octets follow: the
first one says how many there are, and the second is in the range that the first one asks for.
-/

namespace Criteria.Text

variable {c : Char} {n lead second third fourth : Nat} {rest : List Nat}

-- ---------------------------------------------------------------------------
-- Characters
-- ---------------------------------------------------------------------------

theorem toNat_valid (c : Char) : c.toNat < 0xD800 ∨ (0xDFFF < c.toNat ∧ c.toNat < 0x110000) :=
  c.valid

theorem encodeChar_ascii (h : c.toNat < 0x80) : encodeChar c = [c.toNat] := by
  simp [encodeChar, h]

theorem lt_of_mem_encodeChar (h : n ∈ encodeChar c) : n < 256 := by
  have hv := toNat_valid c
  unfold encodeChar at h
  grind

-- ---------------------------------------------------------------------------
-- Octets
-- ---------------------------------------------------------------------------

theorem isContinuation_low (n : Nat) : isContinuation (0x80 + n % 64) = true := by
  simp only [isContinuation, Bool.and_eq_true, decide_eq_true_eq]
  omega

theorem decodeFirst_two (hlead : 0xC2 ≤ lead ∧ lead ≤ 0xDF)
    (h₂ : isContinuation second = true) : decodeFirst lead (second :: rest) =
      (Char.ofNat ((lead - 0xC0) * 64 + (second - 0x80)), 2) := by
  have h : ¬ lead < 0x80 := by omega
  simp only [decodeFirst, if_neg h, if_pos hlead, if_pos h₂]

theorem decodeFirst_three (hlead : 0xE0 ≤ lead ∧ lead ≤ 0xEF)
    (h₂ : isSecondOfThree lead second = true) (h₃ : isContinuation third = true) :
    decodeFirst lead (second :: third :: rest) =
      (Char.ofNat ((lead - 0xE0) * 4096 + (second - 0x80) * 64 + (third - 0x80)), 3) := by
  have h : ¬ lead < 0x80 := by omega
  have h' : ¬ (0xC2 ≤ lead ∧ lead ≤ 0xDF) := by omega
  simp only [decodeFirst, if_neg h, if_neg h', if_pos hlead, if_pos h₂, if_pos h₃]

theorem decodeFirst_four (hlead : 0xF0 ≤ lead ∧ lead ≤ 0xF4)
    (h₂ : isSecondOfFour lead second = true) (h₃ : isContinuation third = true)
    (h₄ : isContinuation fourth = true) :
    decodeFirst lead (second :: third :: fourth :: rest) =
      (Char.ofNat ((lead - 0xF0) * 262144 + (second - 0x80) * 4096 + (third - 0x80) * 64 +
        (fourth - 0x80)), 4) := by
  have h : ¬ lead < 0x80 := by omega
  have h' : ¬ (0xC2 ≤ lead ∧ lead ≤ 0xDF) := by omega
  have h'' : ¬ (0xE0 ≤ lead ∧ lead ≤ 0xEF) := by omega
  simp only [decodeFirst, if_neg h, if_neg h', if_neg h'', if_pos hlead, if_pos h₂, if_pos h₃,
    if_pos h₄]

theorem isSecondOfThree_split (h : 0x800 ≤ n) (hs : n < 0xD800 ∨ 0xDFFF < n) :
    isSecondOfThree (0xE0 + n / 4096) (0x80 + n / 64 % 64) = true := by
  simp only [isSecondOfThree, isContinuation_low, Bool.true_and, Bool.and_eq_true, Bool.or_eq_true,
    bne_iff_ne, decide_eq_true_eq]
  omega

theorem isSecondOfFour_split (h : 0x10000 ≤ n) (hn : n < 0x110000) :
    isSecondOfFour (0xF0 + n / 262144) (0x80 + n / 4096 % 64) = true := by
  simp only [isSecondOfFour, isContinuation_low, Bool.true_and, Bool.and_eq_true, Bool.or_eq_true,
    bne_iff_ne, decide_eq_true_eq]
  omega

/-- The octets of a character are decoded to it, whatever follows. -/
theorem decodeFrom_encodeChar (c : Char) (rest : List Nat) :
    decodeFrom 0 (encodeChar c ++ rest) = c :: decodeFrom 0 rest := by
  have hv := toNat_valid c
  have hc := Char.ofNat_toNat c
  unfold encodeChar
  generalize c.toNat = n at hv hc
  simp only
  split
  next h1 => simp [decodeFrom, decodeFirst, h1, hc]
  next h1 =>
  split
  next h2 =>
    have hn : (0xC0 + n / 64 - 0xC0) * 64 + (0x80 + n % 64 - 0x80) = n := by omega
    have hfirst : decodeFirst (0xC0 + n / 64) ((0x80 + n % 64) :: rest) = (c, 2) := by
      rw [decodeFirst_two (by omega) (isContinuation_low n), hn, hc]
    simp [decodeFrom, hfirst]
  next h2 =>
  split
  next h3 =>
    have hn : (0xE0 + n / 4096 - 0xE0) * 4096 + (0x80 + n / 64 % 64 - 0x80) * 64 +
        (0x80 + n % 64 - 0x80) = n := by omega
    have hfirst : decodeFirst (0xE0 + n / 4096)
        ((0x80 + n / 64 % 64) :: (0x80 + n % 64) :: rest) = (c, 3) := by
      rw [decodeFirst_three (by omega) (isSecondOfThree_split (by omega) (by omega))
        (isContinuation_low n), hn, hc]
    simp [decodeFrom, hfirst]
  next h3 =>
    have hn : (0xF0 + n / 262144 - 0xF0) * 262144 + (0x80 + n / 4096 % 64 - 0x80) * 4096 +
        (0x80 + n / 64 % 64 - 0x80) * 64 + (0x80 + n % 64 - 0x80) = n := by omega
    have hfirst : decodeFirst (0xF0 + n / 262144) ((0x80 + n / 4096 % 64) ::
        (0x80 + n / 64 % 64) :: (0x80 + n % 64) :: rest) = (c, 4) := by
      rw [decodeFirst_four (by omega) (isSecondOfFour_split (by omega) (by omega))
        (isContinuation_low _) (isContinuation_low n), hn, hc]
    simp [decodeFrom, hfirst]

theorem decodeOctets_encodeText (cs : List Char) : decodeOctets (encodeText cs) = cs := by
  induction cs with
  | nil => rfl
  | cons c cs ih =>
    have hc := decodeFrom_encodeChar c (encodeText cs)
    rw [decodeOctets] at ih ⊢
    rw [encodeText, List.flatMap_cons, ← encodeText, hc, ih]

end Criteria.Text
