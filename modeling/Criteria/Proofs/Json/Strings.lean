import Criteria.Json.Reader
import Criteria.Json.Writer
import Criteria.Proofs.Fault
import Criteria.Proofs.Text.Utf8

/-!
# Strings in JSON text

Reading a string undoes the escapes one character at a time. A character of the basic plane
is written as one code unit and never as half of a pair, so a high surrogate is always
followed by the low one that was split off with it.
-/

namespace Criteria.Json

variable {n high low start fuel : Nat} {rest : List Char} {c : Char}

-- ---------------------------------------------------------------------------
-- Code units
-- ---------------------------------------------------------------------------

theorem digitIn?_digitChar : ∀ n < 16, Numeral.digitIn? 16 (Nat.digitChar n) = some n := by
  decide

theorem hexValue?_hex4 (h : n < 0x10000) : hexValue? (hex4 n) = some n := by
  have hdigit (k : Nat) : Numeral.digitIn? 16 (Nat.digitChar (k % 16)) = some (k % 16) :=
    digitIn?_digitChar _ (Nat.mod_lt k (by decide))
  have hvalue : Numeral.valueOf 16 [n / 4096 % 16, n / 256 % 16, n / 16 % 16, n % 16] = n := by
    simp only [Numeral.valueOf, List.foldl_cons, List.foldl_nil]
    omega
  simp [hexValue?, hex4, hdigit, hvalue]

theorem hex4?_hex4 (h : n < 0x10000) (hr : rest ≠ []) : hex4? (hex4 n ++ rest) = some (n, rest) := by
  obtain ⟨c, rest, rfl⟩ := List.exists_cons_of_ne_nil hr
  have hv := hexValue?_hex4 h
  unfold hex4 at hv
  simp [hex4, hex4?, hv]

theorem unicodeEscape_unit (h : n < 0x10000) (hn : isHighSurrogate n = false) (hr : rest ≠ []) :
    unicodeEscape (hex4 n ++ rest) = .ok (ofUnit n, rest) := by
  simp [unicodeEscape, hex4?_hex4 h hr, hn]

theorem unicodeEscape_pair (hhigh : isHighSurrogate high = true)
    (hlow : isLowSurrogate low = true) (hr : rest ≠ []) :
    unicodeEscape (hex4 high ++ escapeUnit low ++ rest) = .ok (joinSurrogates high low, rest) := by
  have hfirst : hex4? (hex4 high ++ '\\' :: 'u' :: (hex4 low ++ rest)) =
      some (high, '\\' :: 'u' :: (hex4 low ++ rest)) :=
    hex4?_hex4 (by simp [isHighSurrogate] at hhigh; omega) (by simp)
  have hsecond : hex4? (hex4 low ++ rest) = some (low, rest) :=
    hex4?_hex4 (by simp [isLowSurrogate] at hlow; omega) hr
  have hlength : ¬ (hex4 low ++ rest).length ≤ 4 := by
    have : 0 < rest.length := List.length_pos_iff.mpr hr
    simp only [hex4, List.length_append, List.length_cons, List.length_nil]
    omega
  simp only [unicodeEscape, escapeUnit, List.append_assoc, List.cons_append, hfirst, hhigh,
    if_neg hlength, hsecond, if_pos hlow]

-- ---------------------------------------------------------------------------
-- Characters
-- ---------------------------------------------------------------------------

theorem ofUnit_toNat (c : Char) : ofUnit c.toNat = c := by
  have hv := Text.toNat_valid c
  have hn : (isHighSurrogate c.toNat || isLowSurrogate c.toNat) = false := by
    simp only [isHighSurrogate, isLowSurrogate, Bool.or_eq_false_iff, Bool.and_eq_false_iff,
      decide_eq_false_iff_not]
    omega
  simp only [ofUnit, hn, Bool.false_eq_true, if_false, Char.ofNat_toNat]

theorem joinSurrogates_split (h : 0x10000 ≤ c.toNat) :
    joinSurrogates (0xD800 + (c.toNat - 0x10000) / 1024)
      (0xDC00 + (c.toNat - 0x10000) % 1024) = c := by
  have hsum : 0x10000 + (0xD800 + (c.toNat - 0x10000) / 1024 - 0xD800) * 1024 +
      (0xDC00 + (c.toNat - 0x10000) % 1024 - 0xDC00) = c.toNat := by omega
  rw [joinSurrogates, hsum, Char.ofNat_toNat]

theorem stringBody_simple (he : simpleEscape? e = some c) (hu : e ≠ 'u')
    (h : stringBody start fuel rest = .ok (cs, after)) :
    stringBody start (fuel + 1) ('\\' :: e :: rest) = .ok (c :: cs, after) := by
  rw [stringBody.eq_6 _ _ _ _ hu, he]
  exact bind_ok.mpr ⟨(cs, after), h, rfl⟩

theorem stringBody_unicode (hu : unicodeEscape text = .ok (c, rest))
    (h : stringBody start fuel rest = .ok (cs, after)) :
    stringBody start (fuel + 1) ('\\' :: 'u' :: text) = .ok (c :: cs, after) :=
  bind_ok.mpr ⟨(c, rest), hu, bind_ok.mpr ⟨(cs, after), h, rfl⟩⟩

theorem stringBody_plain (hq : c ≠ '"') (hb : c ≠ '\\') (hc : 0x20 ≤ c.toNat)
    (h : stringBody start fuel rest = .ok (cs, after)) :
    stringBody start (fuel + 1) (c :: rest) = .ok (c :: cs, after) := by
  rw [stringBody.eq_7 _ _ _ _ hq (fun hc => absurd hc hb) (fun _ hc => absurd hc hb)
    (fun _ _ hc => absurd hc hb), if_neg (Nat.not_lt.mpr hc)]
  exact bind_ok.mpr ⟨(cs, after), h, rfl⟩

theorem ne_nil_of_stringBody (h : stringBody start fuel rest = .ok p) : rest ≠ [] := by
  rintro rfl
  cases fuel <;> cases h

/-- The ways to write a character: a short escape, the character itself, its code unit, or
the two code units of a pair. -/
inductive Escaped (c : Char) : List Char → Prop
  | short (he : simpleEscape? e = some c) (hu : e ≠ 'u') : Escaped c ['\\', e]
  | plain (hq : c ≠ '"') (hb : c ≠ '\\') (hc : 0x20 ≤ c.toNat) : Escaped c [c]
  | unit (hc : c.toNat < 0x10000) : Escaped c (escapeUnit c.toNat)
  | pair (hc : 0x10000 ≤ c.toNat) :
      Escaped c (escapeUnit (0xD800 + (c.toNat - 0x10000) / 1024) ++
        escapeUnit (0xDC00 + (c.toNat - 0x10000) % 1024))

theorem escaped_escapeChar (c : Char) : Escaped c (escapeChar c) := by
  unfold escapeChar
  split
  next hc => rcases hc with rfl | rfl <;> exact .short rfl (by decide)
  next hc =>
  obtain ⟨hq, hb⟩ := not_or.mp hc
  repeat (split; next hc => subst hc; exact .short rfl (by decide))
  split
  next hc => exact .plain hq hb hc.1
  split
  next hc => exact .unit hc
  next hc => exact .pair (Nat.not_lt.mp hc)

theorem Escaped.length_pos (he : Escaped c text) : 0 < text.length := by
  cases he <;> simp [escapeUnit]

theorem Escaped.read (he : Escaped c text) (h : stringBody start fuel rest = .ok (cs, after)) :
    stringBody start (fuel + 1) (text ++ rest) = .ok (c :: cs, after) := by
  have hr : rest ≠ [] := ne_nil_of_stringBody h
  have hv := Text.toNat_valid c
  cases he with
  | short he hu => exact stringBody_simple he hu h
  | plain hq hb hc => exact stringBody_plain hq hb hc h
  | unit hc =>
    have hn : isHighSurrogate c.toNat = false := by
      simp only [isHighSurrogate, Bool.and_eq_false_iff, decide_eq_false_iff_not]
      omega
    have hu : unicodeEscape (hex4 c.toNat ++ rest) = .ok (c, rest) := by
      rw [unicodeEscape_unit hc hn hr, ofUnit_toNat]
    exact stringBody_unicode hu h
  | pair hc =>
    have hhigh : isHighSurrogate (0xD800 + (c.toNat - 0x10000) / 1024) = true := by
      simp only [isHighSurrogate, Bool.and_eq_true, decide_eq_true_eq]
      omega
    have hlow : isLowSurrogate (0xDC00 + (c.toNat - 0x10000) % 1024) = true := by
      simp only [isLowSurrogate, Bool.and_eq_true, decide_eq_true_eq]
      omega
    have hu := unicodeEscape_pair hhigh hlow hr
    rw [joinSurrogates_split hc] at hu
    exact stringBody_unicode hu h

-- ---------------------------------------------------------------------------
-- Strings
-- ---------------------------------------------------------------------------

theorem stringBody_escaped (cs rest : List Char) (h : cs.length < fuel) :
    stringBody start fuel (cs.flatMap escapeChar ++ '"' :: rest) = .ok (cs, rest) := by
  induction cs generalizing fuel with
  | nil =>
    obtain ⟨fuel, rfl⟩ := Nat.exists_eq_add_one.mpr h
    rfl
  | cons c cs ih =>
    obtain ⟨fuel, rfl⟩ := Nat.exists_eq_add_one.mpr (Nat.zero_lt_of_lt h)
    rw [List.flatMap_cons, List.append_assoc]
    exact (escaped_escapeChar c).read (ih (Nat.lt_of_succ_lt_succ h))

theorem length_le_escaped (cs : List Char) : cs.length ≤ (cs.flatMap escapeChar).length := by
  induction cs with
  | nil => exact Nat.le_refl 0
  | cons c cs ih =>
    have := (escaped_escapeChar c).length_pos
    simp only [List.flatMap_cons, List.length_append, List.length_cons]
    omega

theorem stringAfterQuote_escaped (s : String) (rest : List Char) :
    stringAfterQuote (s.toList.flatMap escapeChar ++ '"' :: rest) = .ok (s, rest) := by
  refine bind_ok.mpr ⟨(s.toList, rest), stringBody_escaped _ _ ?_, ?_⟩
  · have := length_le_escaped s.toList
    simp only [List.length_append, List.length_cons]
    omega
  · exact congrArg (fun s => Except.ok (s, rest)) String.ofList_toList

end Criteria.Json
