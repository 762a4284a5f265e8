import Criteria.Form.Percent
import Criteria.Proofs.Text.Utf8
import Mathlib.Data.List.Basic

/-!
# Percent encoding and back

The percent signs of an encoded text lead back to its octets, and the characters that stand
for themselves are octets already, so a whole text is decoded in one row. What a text is
encoded in separates no names, values or pairs.
-/

namespace Criteria.Form

open Criteria.Text

variable {c : Char} {cs : List Char} {n : Nat} {octets pending : List Nat}

-- ---------------------------------------------------------------------------
-- Percent signs
-- ---------------------------------------------------------------------------

theorem digitIn?_hexDigit : ∀ n < 16, Numeral.digitIn? 16 (hexDigit n) = some n := by
  decide

theorem isUnreserved_hexDigit : ∀ n < 16, isUnreserved (hexDigit n) = true := by
  decide

theorem octet?_hexDigit (h : n < 256) : octet? (hexDigit (n / 16)) (hexDigit (n % 16)) = some n := by
  have hhigh : Numeral.digitIn? 16 (hexDigit (n / 16)) = some (n / 16) :=
    digitIn?_hexDigit _ (by omega)
  have hlow : Numeral.digitIn? 16 (hexDigit (n % 16)) = some (n % 16) :=
    digitIn?_hexDigit _ (by omega)
  have hn : n / 16 * 16 + n % 16 = n := by omega
  simp [octet?, hhigh, hlow, hn]

theorem decodeWith_escapeOctet (h : n < 256) (cs : List Char) :
    decodeWith pending (escapeOctet n ++ cs) = decodeWith (n :: pending) cs := by
  simp [escapeOctet, decodeWith, octet?_hexDigit h]

theorem decodeWith_escapeOctets (h : ∀ n ∈ octets, n < 256) (cs : List Char) :
    decodeWith pending (octets.flatMap escapeOctet ++ cs) =
      decodeWith (octets.reverse ++ pending) cs := by
  induction octets generalizing pending with
  | nil => rfl
  | cons n octets ih =>
    rw [List.flatMap_cons, List.append_assoc, decodeWith_escapeOctet (h n List.mem_cons_self),
      ih fun m hm => h m (List.mem_cons_of_mem n hm)]
    simp

theorem decodeWith_ascii (h : c.toNat < 0x80) (hc : c ≠ '%') (cs : List Char) :
    decodeWith pending (c :: cs) = decodeWith (c.toNat :: pending) cs := by
  rw [decodeWith.eq_3 _ _ _ (by rintro high low rest rfl; exact absurd rfl hc), if_pos h]

-- ---------------------------------------------------------------------------
-- Texts
-- ---------------------------------------------------------------------------

/-- The characters of encoded texts. None of them separates names, values or pairs. -/
def isEncoded (c : Char) : Bool :=
  isUnreserved c || c == '+' || c == '%'

theorem isAlphanum_ascii (h : c.isAlphanum = true) : c.toNat < 0x80 := by
  have hupto (d : Char) (hd : d.toNat < 0x80) (hc : c.val ≤ d.val) : c.toNat < 0x80 :=
    Nat.lt_of_le_of_lt hc hd
  have h : ((c.isUpper || c.isLower) || c.isDigit) = true := h
  rw [Bool.or_eq_true, Bool.or_eq_true] at h
  obtain (hupper | hlower) | hdigit := h
  · exact hupto 'Z' (by decide) (of_decide_eq_true hupper).2
  · exact hupto 'z' (by decide) (of_decide_eq_true (Bool.and_eq_true_iff.mp hlower).2)
  · exact hupto '9' (by decide) (of_decide_eq_true (Bool.and_eq_true_iff.mp hdigit).2)

theorem isUnreserved_ascii (h : isUnreserved c = true) : c.toNat < 0x80 := by
  simp only [isUnreserved, Bool.or_eq_true, beq_iff_eq] at h
  obtain (((halnum | rfl) | rfl) | rfl) | rfl := h
  · exact isAlphanum_ascii halnum
  all_goals decide

theorem isEncoded_of_mem (h : c ∈ encode cs) : isEncoded c = true := by
  obtain ⟨d, -, hd⟩ := List.mem_flatMap.mp h
  unfold encodeFormChar at hd
  split at hd
  next => simp [isEncoded, List.mem_singleton.mp hd]
  next =>
  split at hd
  next hu => simp [isEncoded, List.mem_singleton.mp hd, hu]
  next =>
    obtain ⟨n, hn, hc⟩ := List.mem_flatMap.mp hd
    have hlt := lt_of_mem_encodeChar hn
    have hhigh := isUnreserved_hexDigit (n / 16) (by omega)
    have hlow := isUnreserved_hexDigit (n % 16) (by omega)
    simp only [escapeOctet, List.mem_cons, List.not_mem_nil, or_false] at hc
    obtain rfl | rfl | rfl := hc <;> simp [isEncoded, hhigh, hlow]

def unplus (c : Char) : Char :=
  if c = '+' then ' ' else c

theorem unplus_hexDigit : ∀ n < 16, unplus (hexDigit n) = hexDigit n := by
  decide

theorem map_unplus_escapeOctet (h : n < 256) : (escapeOctet n).map unplus = escapeOctet n := by
  have hhigh := unplus_hexDigit (n / 16) (by omega)
  have hlow := unplus_hexDigit (n % 16) (by omega)
  simp [escapeOctet, hhigh, hlow, show unplus '%' = '%' by decide]

theorem map_unplus_escapeOctets (h : ∀ n ∈ octets, n < 256) :
    (octets.flatMap escapeOctet).map unplus = octets.flatMap escapeOctet := by
  rw [List.map_flatMap]
  exact List.flatMap_congr fun n hn => map_unplus_escapeOctet (h n hn)

theorem decodeWith_encodeFormChar (c : Char) (cs : List Char) :
    decodeWith pending ((encodeFormChar c).map unplus ++ cs) =
      decodeWith ((encodeChar c).reverse ++ pending) cs := by
  unfold encodeFormChar
  split
  next h =>
    -- The plus sign that is written for a space is the only one that is read as one.
    subst h
    rfl
  next hs =>
  split
  next hu =>
    have hc := isUnreserved_ascii hu
    have hplus : c ≠ '+' := by rintro rfl; exact absurd hu (by decide)
    have hpercent : c ≠ '%' := by rintro rfl; exact absurd hu (by decide)
    simp [unplus, hplus, encodeChar_ascii hc, decodeWith_ascii hc hpercent]
  next hu =>
    have ho (n : Nat) (hn : n ∈ encodeChar c) : n < 256 := lt_of_mem_encodeChar hn
    rw [map_unplus_escapeOctets ho, decodeWith_escapeOctets ho]

theorem decodeWith_encode (cs : List Char) :
    decodeWith pending ((encode cs).map unplus) =
      decodeOctets (pending.reverse ++ encodeText cs) := by
  induction cs generalizing pending with
  | nil => simp [encode, encodeText, decodeWith]
  | cons c cs ih =>
    rw [encode, List.flatMap_cons, ← encode, List.map_append, decodeWith_encodeFormChar, ih]
    simp [encodeText]

theorem decode_encode (cs : List Char) : decode (encode cs) = cs := by
  have h : decode (encode cs) = decodeOctets (([] : List Nat).reverse ++ encodeText cs) :=
    decodeWith_encode cs
  rwa [List.reverse_nil, List.nil_append, decodeOctets_encodeText] at h

end Criteria.Form
