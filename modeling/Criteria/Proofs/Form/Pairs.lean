import Criteria.Form.Pairs
import Criteria.Proofs.Form.Percent

/-!
# Form data and back

Encoding leaves no `&` in a pair and no `=` in a name, so the text of a row of pairs falls
apart into the texts of the pairs and each of these into its two halves. A pair is never
written as an empty piece, even if its name and its value are empty: none is skipped.
-/

namespace Criteria.Form

variable {separator c : Char} {piece : List Char} {pieces : List (List Char)} {p : Pair}
  {pairs : List Pair}

-- ---------------------------------------------------------------------------
-- Pieces
-- ---------------------------------------------------------------------------

theorem splitAt_ne_nil (separator : Char) (cs : List Char) : splitAt separator cs ≠ [] := by
  cases cs with
  | nil => simp [splitAt]
  | cons c cs =>
    rw [splitAt]
    split
    · simp
    · split <;> simp

theorem flatten_splitAt_sublist (separator : Char) (cs : List Char) :
    (splitAt separator cs).flatten.Sublist cs := by
  induction cs with
  | nil => exact List.Sublist.refl []
  | cons c cs ih =>
    rw [splitAt]
    split
    · exact ih.cons c
    · obtain ⟨first, pieces, heq⟩ := List.exists_cons_of_ne_nil (splitAt_ne_nil separator cs)
      rw [heq] at ih ⊢
      exact ih.cons_cons c

theorem not_mem_of_mem_splitAt {cs : List Char} (h : piece ∈ splitAt separator cs) :
    separator ∉ piece := by
  induction cs generalizing piece with
  | nil => simp_all [splitAt]
  | cons c cs ih =>
    rw [splitAt] at h
    split at h
    · rcases List.mem_cons.mp h with rfl | h
      · simp
      · exact ih h
    next hc =>
      obtain ⟨first, pieces, heq⟩ := List.exists_cons_of_ne_nil (splitAt_ne_nil separator cs)
      rw [heq] at h ih
      rcases List.mem_cons.mp h with rfl | h
      · simpa [Ne.symm hc] using ih List.mem_cons_self
      · exact ih (List.mem_cons_of_mem first h)

theorem splitAt_piece (h : separator ∉ piece) : splitAt separator piece = [piece] := by
  induction piece with
  | nil => rfl
  | cons c piece ih =>
    obtain ⟨hc, hpiece⟩ := not_or.mp (mt List.mem_cons.mpr h)
    simp [splitAt, Ne.symm hc, ih hpiece]

theorem splitAt_first (h : separator ∉ piece) (rest : List Char) :
    splitAt separator (piece ++ separator :: rest) = piece :: splitAt separator rest := by
  induction piece with
  | nil => simp [splitAt]
  | cons c piece ih =>
    obtain ⟨hc, hpiece⟩ := not_or.mp (mt List.mem_cons.mpr h)
    simp [splitAt, Ne.symm hc, ih hpiece]

theorem splitAt_intersperse (hne : pieces ≠ []) (h : ∀ piece ∈ pieces, separator ∉ piece) :
    splitAt separator (pieces.intersperse [separator]).flatten = pieces := by
  induction pieces with
  | nil => exact absurd rfl hne
  | cons piece pieces ih =>
    have hpiece : separator ∉ piece := h piece List.mem_cons_self
    cases pieces with
    | nil => simpa using splitAt_piece hpiece
    | cons next pieces =>
      have hrest := ih (by simp) fun q hq => h q (List.mem_cons_of_mem piece hq)
      rw [List.intersperse_cons_cons, List.flatten_cons, List.flatten_cons, List.singleton_append,
        splitAt_first hpiece, hrest]

-- ---------------------------------------------------------------------------
-- Pairs
-- ---------------------------------------------------------------------------

theorem not_mem_encode {cs : List Char} (h : isEncoded c = false) : c ∉ encode cs :=
  fun hc => Bool.false_ne_true (h.symm.trans (isEncoded_of_mem hc))

theorem not_mem_writePair (h : isEncoded c = false) (hc : c ≠ '=') : c ∉ writePair p := by
  simp [writePair, not_mem_encode h, hc]

theorem not_mem_writeChars (h : isEncoded c = false) (heq : c ≠ '=') (hand : c ≠ '&') :
    c ∉ writeChars pairs := by
  induction pairs with
  | nil => simp [writeChars]
  | cons p pairs ih =>
    cases pairs with
    | nil => simpa [writeChars] using not_mem_writePair h heq
    | cons q pairs =>
      have hcons : writeChars (p :: q :: pairs) = writePair p ++ '&' :: writeChars (q :: pairs) := by
        simp [writeChars, List.intersperse_cons_cons]
      rw [hcons]
      simp [not_mem_writePair h heq, hand, ih]

theorem readPair_writePair (p : Pair) : readPair (writePair p) = p := by
  have hname (c : Char) (hc : c ∈ encode p.1.toList) : (c != '=') = true := by
    rw [bne_iff_ne]
    rintro rfl
    exact not_mem_encode (by decide) hc
  simp [readPair, writePair, List.takeWhile_append_of_pos hname, List.dropWhile_append_of_pos hname,
    decode_encode]

theorem readChars_writeChars (pairs : List Pair) : readChars (writeChars pairs) = pairs := by
  rcases eq_or_ne pairs [] with rfl | hne
  · rfl
  have hand (piece : List Char) (hpiece : piece ∈ pairs.map writePair) : '&' ∉ piece := by
    obtain ⟨p, -, rfl⟩ := List.mem_map.mp hpiece
    exact not_mem_writePair (by decide) (by decide)
  have hkept (piece : List Char) (hpiece : piece ∈ pairs.map writePair) :
      (!piece.isEmpty) = true := by
    obtain ⟨p, -, rfl⟩ := List.mem_map.mp hpiece
    simp [writePair]
  rw [readChars, writeChars, splitAt_intersperse (by simpa using hne) hand,
    List.filter_eq_self.mpr hkept, List.map_map]
  exact List.map_id'' readPair_writePair pairs

example : write [("a b", "1+1=2&c"), ("", "")] = "a+b=1%2B1%3D2%26c&=" := by decide

end Criteria.Form
