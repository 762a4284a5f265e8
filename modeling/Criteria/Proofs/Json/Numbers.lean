import Criteria.Json.Reader
import Criteria.Json.Writer

/-!
# Whole numbers in JSON text

A whole number is written in decimal digits without a zero in front. Reading takes all the
digits that follow, so it gives the number back where none of the characters comes after it
that would continue a number.
-/

namespace Criteria.Json

/-- What may stand after a value: nothing, a comma, a closing bracket or a new line. -/
inductive Ends : List Char → Prop
  | nil : Ends []
  | comma : Ends (',' :: rest)
  | bracket : Ends (']' :: rest)
  | brace : Ends ('\x7d' :: rest)
  | line : Ends ('\n' :: rest)

variable {n : Nat} {rest : List Char} {c : Char}

theorem isDigitChar_toDigits (hc : c ∈ Nat.toDigits 10 n) : Numeral.isDigitChar c = true :=
  Nat.isDigit_of_mem_toDigits (by decide) (by decide) hc

theorem valueOf_toDigits (n : Nat) :
    Numeral.valueOf 10 ((Nat.toDigits 10 n).map fun c => c.toNat - '0'.toNat) = n := by
  have h := Nat.ofDigitChars_ten_toDigits (n := n)
  rw [Nat.ofDigitChars_eq_foldl] at h
  simpa only [Numeral.valueOf, List.foldl_map, Nat.mul_comm] using h

theorem eq_nil_of_toDigits_zero (h : Nat.toDigits 10 n = '0' :: tail) : tail = [] := by
  induction n using Nat.strongRecOn generalizing tail with
  | ind n ih =>
    rw [Nat.toDigits_eq_if (by decide)] at h
    split at h
    next => exact (List.cons.inj h).2.symm
    next hn =>
      obtain ⟨c, front, hf⟩ := List.exists_cons_of_ne_nil (Nat.toDigits_ne_nil (n := n / 10) (b := 10))
      rw [hf, List.cons_append] at h
      obtain ⟨rfl, -⟩ := List.cons.inj h
      have hfront : front = [] := ih (n / 10) (by omega) hf
      have hzero := Nat.ofDigitChars_ten_toDigits (n := n / 10)
      rw [hf, hfront] at hzero
      have : n / 10 = 0 := hzero.symm
      omega

theorem toDigits_head (n : Nat) :
    ∃ c tail, Nat.toDigits 10 n = c :: tail ∧ Numeral.isDigitChar c = true := by
  obtain ⟨c, tail, ht⟩ := List.exists_cons_of_ne_nil (Nat.toDigits_ne_nil (n := n) (b := 10))
  exact ⟨c, tail, ht, isDigitChar_toDigits (n := n) (by simp [ht])⟩

theorem takeWholePart_toDigits (hr : Ends rest) :
    takeWholePart (Nat.toDigits 10 n ++ rest) = (Nat.toDigits 10 n, rest) := by
  have hstop : rest.takeWhile Numeral.isDigitChar = [] ∧
      rest.dropWhile Numeral.isDigitChar = rest := by
    cases hr <;> exact ⟨rfl, rfl⟩
  have hdigits : ∀ c ∈ Nat.toDigits 10 n, Numeral.isDigitChar c = true :=
    fun _ => isDigitChar_toDigits
  obtain ⟨c, tail, ht⟩ := List.exists_cons_of_ne_nil (Nat.toDigits_ne_nil (n := n) (b := 10))
  by_cases hc : c = '0'
  · subst hc
    rw [ht, eq_nil_of_toDigits_zero ht]
    rfl
  · rw [takeWholePart.eq_2 _ (fun _ h => by simp [ht, hc] at h),
      List.takeWhile_append_of_pos hdigits, List.dropWhile_append_of_pos hdigits, hstop.1, hstop.2,
      List.append_nil]

theorem toDigits_ne_cons (hc : Numeral.isDigitChar c = false) :
    Nat.toDigits 10 n ++ rest ≠ c :: tail := by
  intro h
  obtain ⟨d, front, hd, hdigit⟩ := toDigits_head n
  rw [hd] at h
  obtain rfl : d = c := (List.cons.inj h).1
  exact absurd (hdigit.symm.trans hc) (by decide)

theorem number?_neg_toDigits (hn : (Nat.toDigits 10 n).length ≤ Numeral.digitLimit)
    (hr : Ends rest) :
    number? ('-' :: Nat.toDigits 10 n ++ rest) = .ok (.int (-n), rest) := by
  have hfraction : takeFractionPart rest = ([], rest) := by cases hr <;> rfl
  have hexponent : takeExponentPart rest = ([], rest) := by cases hr <;> rfl
  simp [number?, takeWholePart_toDigits hr, hfraction, hexponent, Nat.toDigits_ne_nil, hn,
    valueOf_toDigits, -Char.reduceToNat]

theorem number?_toDigits (hn : (Nat.toDigits 10 n).length ≤ Numeral.digitLimit) (hr : Ends rest) :
    number? (Nat.toDigits 10 n ++ rest) = .ok (.int n, rest) := by
  have hfraction : takeFractionPart rest = ([], rest) := by cases hr <;> rfl
  have hexponent : takeExponentPart rest = ([], rest) := by cases hr <;> rfl
  unfold number?
  split
  next negative body hsign =>
    split at hsign
    next h => exact absurd h (toDigits_ne_cons rfl)
    next =>
      obtain ⟨rfl, rfl⟩ := Prod.mk.inj hsign
      simp [takeWholePart_toDigits hr, hfraction, hexponent, Nat.toDigits_ne_nil, hn,
        valueOf_toDigits, -Char.reduceToNat]

-- ---------------------------------------------------------------------------
-- Words
-- ---------------------------------------------------------------------------

theorem words_letters : ∀ w ∈ words, ∃ a b tail, w.1.toList = a :: b :: tail ∧
    Numeral.isDigitChar a = false ∧ Numeral.isDigitChar b = false := by
  simp only [words, List.forall_mem_cons]
  exact ⟨⟨'n', 'u', _, rfl, rfl, rfl⟩, ⟨'t', 'r', _, rfl, rfl, rfl⟩, ⟨'f', 'a', _, rfl, rfl, rfl⟩,
    ⟨'N', 'a', _, rfl, rfl, rfl⟩, ⟨'I', 'n', _, rfl, rfl, rfl⟩, ⟨'-', 'I', _, rfl, rfl, rfl⟩, nofun⟩

theorem word?_digit (hc : Numeral.isDigitChar c = true) :
    word? (c :: rest) = none ∧ word? ('-' :: c :: rest) = none := by
  have hne (d : Char) (hd : Numeral.isDigitChar d = false) : (d == c) = false := by
    rw [beq_eq_false_iff_ne]
    rintro rfl
    exact absurd (hc.symm.trans hd) (by decide)
  constructor <;>
  · rw [word?, List.findSome?_eq_none_iff]
    intro w hw
    obtain ⟨a, b, tail, hw, ha, hb⟩ := words_letters w hw
    simp [hw, List.isPrefixOf, hne a ha, hne b hb]

-- ---------------------------------------------------------------------------
-- Whole numbers
-- ---------------------------------------------------------------------------

def numeral (n : Int) : List Char :=
  if n < 0 then '-' :: Nat.toDigits 10 n.natAbs else Nat.toDigits 10 n.natAbs

theorem wholeText_numeral {n : Int}
    (hn : (Nat.toDigits 10 n.natAbs).length ≤ Numeral.digitLimit) :
    wholeText n = .ok (String.ofList (numeral n)) := by
  simp only [wholeText, Numeral.writeWhole?, hn, if_true, numeral]

theorem numeral_head (n : Int) :
    ∃ c tail, numeral n = c :: tail ∧ (c = '-' ∨ Numeral.isDigitChar c = true) := by
  unfold numeral
  split
  · exact ⟨'-', _, rfl, .inl rfl⟩
  · obtain ⟨c, tail, ht, hc⟩ := toDigits_head n.natAbs
    exact ⟨c, tail, ht, .inr hc⟩

/-- Where nothing follows that would continue it, a whole number is read back. -/
theorem number?_numeral {n : Int}
    (hn : (Nat.toDigits 10 n.natAbs).length ≤ Numeral.digitLimit) (hr : Ends rest) :
    word? (numeral n ++ rest) = none ∧ number? (numeral n ++ rest) = .ok (.int n, rest) := by
  obtain ⟨c, tail, ht, hc⟩ := toDigits_head n.natAbs
  unfold numeral
  split
  next hneg =>
    have hvalue : -(n.natAbs : Int) = n := by omega
    refine ⟨?_, by rw [number?_neg_toDigits hn hr, hvalue]⟩
    rw [ht]
    exact (word?_digit hc).2
  next hpos =>
    have hvalue : (n.natAbs : Int) = n := by omega
    refine ⟨?_, by rw [number?_toDigits hn hr, hvalue]⟩
    rw [ht]
    exact (word?_digit hc).1

end Criteria.Json
