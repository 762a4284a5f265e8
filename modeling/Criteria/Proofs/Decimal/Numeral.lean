import Mathlib.Data.List.Basic
import Mathlib.Data.List.TakeWhile
import Criteria.Decimal.Numeral
import Criteria.Proofs.Json.Numbers

/-!
# Whole numbers as texts

The text of a whole number consists of ASCII digits and at most a sign in front. Reading it
passes over nothing and gives the number back.
-/

namespace Criteria.Numeral

variable {cs : List Char} {c : Char} {n : Int}

theorem isDigitChar_bounds (h : isDigitChar c = true) : 48 ≤ c.toNat ∧ c.toNat ≤ 57 := by
  simp only [isDigitChar, Bool.and_eq_true, decide_eq_true_eq] at h
  exact h

theorem not_padding_of_digit (h : isDigitChar c = true) : isPadding c = false := by
  have hb := isDigitChar_bounds h
  simp [isPadding, Text.isBlank]
  omega

theorem digitIn?_digit (h : isDigitChar c = true) : digitIn? 10 c = some (c.toNat - '0'.toNat) := by
  have hb := isDigitChar_bounds h
  have hc : '0' ≤ c ∧ c ≤ '9' := by simpa [isDigitChar] using h
  have hlt : c.toNat - '0'.toNat < 10 := by
    have h0 : '0'.toNat = 48 := rfl
    omega
  simp only [digitIn?, if_pos hc]
  exact Option.filter_eq_some_iff.mpr ⟨rfl, by simpa using hlt⟩

theorem normalize_eq_self (h : ∀ c ∈ cs, isPadding c = false ∧ c.toNat < 128) :
    normalize cs = cs := by
  have hdrop (xs : List Char) (hx : ∀ c ∈ xs, isPadding c = false) :
      xs.dropWhile isPadding = xs := by
    cases xs with
    | nil => rfl
    | cons x xs => exact List.dropWhile_cons_of_neg (by simp [hx x])
  have hpadding : ∀ c ∈ cs, isPadding c = false := fun c hc => (h c hc).1
  have hmap : cs.map normalizeChar = cs := by
    refine (List.map_congr_left fun c hc => ?_).trans (List.map_id' cs)
    rw [normalizeChar, if_pos (h c hc).2]
  rw [normalize, hdrop cs hpadding, hdrop cs.reverse (by simpa using hpadding),
    List.reverse_reverse, hmap]

theorem takeRadix_ten (cs : List Char) : takeRadix 10 cs = (none, cs) := by
  unfold takeRadix
  split
  · rfl
  · rfl

theorem takeSign_digit (h : ∀ c ∈ cs, isDigitChar c = true) : takeSign cs = (false, cs) := by
  unfold takeSign
  split
  next rest => exact absurd (h '-' List.mem_cons_self) (by decide)
  next rest => exact absurd (h '+' List.mem_cons_self) (by decide)
  · rfl

theorem underscoresOk_of_not_mem (isDigit : Char → Bool) (h : '_' ∉ cs) (hb : before ≠ some '_') :
    underscoresOk isDigit before cs = true := by
  induction cs generalizing before with
  | nil => simpa [underscoresOk] using hb
  | cons c cs ih =>
    rw [List.mem_cons, not_or] at h
    have hc : some c ≠ some '_' := fun heq => h.1 (Option.some.inj heq).symm
    simp [underscoresOk, Ne.symm h.1, hb, ih h.2 hc]

theorem filterMap_digitIn? (h : ∀ c ∈ cs, isDigitChar c = true) :
    cs.filterMap (digitIn? 10) = cs.map fun c => c.toNat - '0'.toNat := by
  rw [← List.filterMap_eq_map]
  exact List.filterMap_congr fun c hc => digitIn?_digit (h c hc)

theorem readWhole_digits {negative : Bool}
    (hsign : takeSign (normalize text.toList) = (negative, cs))
    (h : ∀ c ∈ cs, isDigitChar c = true) (hne : cs ≠ []) (hlen : cs.length ≤ digitLimit) :
    readWhole text = .ok (if negative then
      -(valueOf 10 (cs.map fun c => c.toNat - '0'.toNat) : Int)
      else valueOf 10 (cs.map fun c => c.toNat - '0'.toNat)) := by
  have hrun : (cs.takeWhile fun c => (digitIn? 10 c).isSome || c == '_') = cs :=
    List.takeWhile_eq_self_iff.mpr fun c hc => by simp [digitIn?_digit (h c hc)]
  have hmark : '_' ∉ cs := fun hmem => absurd (h '_' hmem) (by decide)
  have hok (isDigit : Char → Bool) : underscoresOk isDigit none cs = true :=
    underscoresOk_of_not_mem isDigit hmark (by simp)
  simp [readWhole, readWholeIn, hsign, takeRadix_ten, hrun, filterMap_digitIn? h, hok, hne,
    Nat.not_lt.mpr hlen]

/-- What is written for a whole number is read as this number. -/
theorem readWhole_numeral (hn : (Nat.toDigits 10 n.natAbs).length ≤ digitLimit) :
    readWhole (String.ofList (Json.numeral n)) = .ok n := by
  have hdigits : ∀ c ∈ Nat.toDigits 10 n.natAbs, isDigitChar c = true :=
    fun _ => Json.isDigitChar_toDigits
  have hplain : ∀ c ∈ Nat.toDigits 10 n.natAbs, isPadding c = false ∧ c.toNat < 128 := by
    intro c hc
    have hb := isDigitChar_bounds (hdigits c hc)
    exact ⟨not_padding_of_digit (hdigits c hc), by omega⟩
  by_cases hneg : n < 0
  · have hsign : takeSign (normalize (String.ofList (Json.numeral n)).toList) =
        (true, Nat.toDigits 10 n.natAbs) := by
      rw [String.toList_ofList, Json.numeral, if_pos hneg,
        normalize_eq_self (List.forall_mem_cons.mpr ⟨by decide, hplain⟩)]
      rfl
    have hvalue : -(n.natAbs : Int) = n := by omega
    rw [readWhole_digits hsign hdigits Nat.toDigits_ne_nil hn, Json.valueOf_toDigits, if_pos rfl,
      hvalue]
  · have hsign : takeSign (normalize (String.ofList (Json.numeral n)).toList) =
        (false, Nat.toDigits 10 n.natAbs) := by
      rw [String.toList_ofList, Json.numeral, if_neg hneg, normalize_eq_self hplain,
        takeSign_digit hdigits]
    have hvalue : (n.natAbs : Int) = n := by omega
    rw [readWhole_digits hsign hdigits Nat.toDigits_ne_nil hn, Json.valueOf_toDigits,
      if_neg Bool.false_ne_true, hvalue]

end Criteria.Numeral
