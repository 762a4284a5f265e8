import Mathlib.Data.List.Forall2
import Criteria.Wire.Value
import Criteria.Proofs.Form.Pairs
import Criteria.Proofs.Text.Marks
import Criteria.Proofs.Text.Strip

/-!
# Splitting at a separator

What the splitter takes for a separator is the separator up to case with blanks around it
(`Spelled`). A text falls apart into pieces without a separator and one between each two of
them (`Splits`). So it stays in one piece exactly if no separator occurs in it, and a
character that can belong to no separator is in the pieces as often as in the text.
-/

namespace Criteria.Wire

open Criteria.Text

/-- A text that counts as the separator, with the blanks that belong to it. -/
inductive Spelled (sep : List Char) : List Char → Prop
  | intro {before word after : List Char} (hbefore : before.all isBlank = true)
      (hword : List.Forall₂ (fun p c => sameIgnoringCase p c = true) sep word)
      (hafter : after.all isBlank = true)
      (hgaps : isWord sep = true → before ≠ [] ∧ after ≠ []) :
      Spelled sep (before ++ (word ++ after))

def Occurs (sep cs : List Char) : Prop :=
  ∃ written, Spelled sep written ∧ written <:+: cs

/-- Pieces of a text with a separator between each two of them and in none of them. -/
inductive Splits (sep : List Char) : List Char → List (List Char) → Prop
  | last (h : ¬ Occurs sep piece) : Splits sep piece [piece]
  | more (h : ¬ Occurs sep piece) (hw : Spelled sep written) (hrest : Splits sep rest pieces) :
      Splits sep (piece ++ (written ++ rest)) (piece :: pieces)

variable {sep cs word written rest piece blanks : List Char} {pieces : List (List Char)}
  {c m : Char} {k : Nat}

-- ---------------------------------------------------------------------------
-- Separators
-- ---------------------------------------------------------------------------

theorem afterIgnoringCase?_eq_some_iff : afterIgnoringCase? sep cs = some rest ↔
    ∃ word, List.Forall₂ (fun p c => sameIgnoringCase p c = true) sep word ∧
      cs = word ++ rest := by
  induction sep generalizing cs with
  | nil => simp [afterIgnoringCase?]
  | cons p ps ih =>
    cases cs with
    | nil => simp [afterIgnoringCase?, List.forall₂_cons_left_iff]
    | cons c cs =>
      simp only [afterIgnoringCase?, Option.ite_none_right_eq_some, ih,
        List.forall₂_cons_left_iff]
      constructor
      · rintro ⟨hc, word, hword, rfl⟩
        exact ⟨c :: word, ⟨c, word, hc, hword, rfl⟩, rfl⟩
      · rintro ⟨_, ⟨c', word, hc, hword, rfl⟩, h⟩
        obtain ⟨rfl, rfl⟩ := List.cons.inj h
        exact ⟨hc, word, hword, rfl⟩

theorem all_take_blank (hk : k ≤ (cs.takeWhile isBlank).length) :
    (cs.take k).all isBlank = true := by
  have htake : cs.take k = (cs.takeWhile isBlank).take k := by
    conv_lhs => rw [← List.takeWhile_append_dropWhile (p := isBlank) (l := cs)]
    exact List.take_append_of_le_length hk
  refine List.all_eq_true.mpr fun c hc => ?_
  rw [htake] at hc
  exact List.all_eq_true.mp List.all_takeWhile c (List.mem_of_mem_take hc)

theorem afterSeparatorAt?_spelled (hk : k ≤ (cs.takeWhile isBlank).length)
    (hleast : isWord sep = true → 1 ≤ k) (h : afterSeparatorAt? sep cs k = some rest) :
    ∃ written, Spelled sep written ∧ cs = written ++ rest := by
  obtain ⟨behind, hbehind, hrest⟩ := Option.bind_eq_some_iff.mp h
  obtain ⟨word, hword, hdrop⟩ := afterIgnoringCase?_eq_some_iff.mp hbehind
  split at hrest
  · cases hrest
  next hblank =>
    obtain rfl : behind.dropWhile isBlank = rest := Option.some.inj hrest
    refine ⟨cs.take k ++ (word ++ behind.takeWhile isBlank), ?_, ?_⟩
    · refine .intro (all_take_blank hk) hword List.all_takeWhile fun hw => ⟨?_, ?_⟩
      · have hlen := (List.takeWhile_sublist isBlank (l := cs)).length_le
        have hleast := hleast hw
        refine List.ne_nil_of_length_pos ?_
        rw [List.length_take]
        omega
      · obtain ⟨b, behind, rfl, hb⟩ : ∃ b tail, behind = b :: tail ∧ isBlank b = true := by
          cases behind with
          | nil => simp [hw] at hblank
          | cons b tail => exact ⟨b, tail, rfl, by simpa [hw] using hblank⟩
        simp [hb]
    · rw [List.append_assoc, List.append_assoc, List.takeWhile_append_dropWhile, ← hdrop,
        List.take_append_drop]

theorem afterSeparator?_spelled (h : afterSeparator? sep cs = some rest) :
    ∃ written, Spelled sep written ∧ cs = written ++ rest := by
  obtain ⟨k, hk, hrest⟩ := List.exists_of_findSome?_eq_some h
  simp only [List.mem_filter, List.mem_reverse, List.mem_range, decide_eq_true_eq] at hk
  refine afterSeparatorAt?_spelled (by omega) (fun hword => ?_) hrest
  simpa [hword] using hk.2

namespace Spelled

theorem afterSeparator? (h : Spelled sep written) (rest : List Char) :
    ∃ rest', Wire.afterSeparator? sep (written ++ rest) = some rest' := by
  cases h with
  | @intro before word after hbefore hword hafter hgaps =>
    have hat : ∃ rest', afterSeparatorAt? sep (before ++ (word ++ after) ++ rest) before.length =
        some rest' := by
      have hword : afterIgnoringCase? sep ((before ++ (word ++ after) ++ rest).drop before.length) =
          some (after ++ rest) :=
        afterIgnoringCase?_eq_some_iff.mpr ⟨word, hword, by simp⟩
      refine ⟨_, Option.bind_eq_some_iff.mpr ⟨_, hword, if_neg ?_⟩⟩
      cases hw : isWord sep with
      | false => simp
      | true =>
        obtain ⟨b, tail, rfl⟩ := List.exists_cons_of_ne_nil (hgaps hw).2
        have hb : isBlank b = true := by
          simp only [List.all_cons, Bool.and_eq_true] at hafter
          exact hafter.1
        simp [hb]
    refine Option.isSome_iff_exists.mp (List.findSome?_isSome_iff.mpr ⟨before.length, ?_, ?_⟩)
    · have hle : before.length ≤
          ((before ++ (word ++ after) ++ rest).takeWhile isBlank).length := by
        rw [List.append_assoc, List.takeWhile_append_of_pos (List.all_eq_true.mp hbefore)]
        simp
      have hleast : (if isWord sep = true then 1 else 0) ≤ before.length := by
        split
        next hw => exact List.length_pos_of_ne_nil (hgaps hw).1
        · exact Nat.zero_le _
      simp only [List.mem_filter, List.mem_reverse, List.mem_range, decide_eq_true_eq]
      exact ⟨by omega, hleast⟩
    · exact Option.isSome_iff_exists.mpr hat

theorem ne_nil (h : Spelled sep written) (hsep : sep ≠ []) : written ≠ [] := by
  cases h with
  | @intro before word after _ hword =>
    have hne : word ≠ [] := by
      rintro rfl
      exact hsep (List.forall₂_nil_right_iff.mp hword)
    simp [hne]

theorem not_mem (h : Spelled sep written) (hc : isBlank c = false)
    (hsep : ∀ p ∈ sep, sameIgnoringCase p c = false) : c ∉ written := by
  cases h with
  | @intro before word after hbefore hword hafter =>
    have hblanks (blanks : List Char) (hb : blanks.all isBlank = true) : c ∉ blanks :=
      fun hmem => Bool.false_ne_true (hc.symm.trans (List.all_eq_true.mp hb c hmem))
    have hmid : c ∉ word := by
      intro hmem
      obtain ⟨k, hk, rfl⟩ := List.getElem_of_mem hmem
      have hk' : k < sep.length := hword.length_eq ▸ hk
      exact Bool.false_ne_true ((hsep _ (List.getElem_mem hk')).symm.trans (hword.get hk' hk))
    simp [hblanks before hbefore, hmid, hblanks after hafter]

end Spelled

theorem afterSeparator?_eq_none_of_append (h : afterSeparator? sep (cs ++ rest) = none) :
    afterSeparator? sep cs = none := by
  refine Option.eq_none_iff_forall_ne_some.mpr fun rest' hrest => ?_
  obtain ⟨written, hw, rfl⟩ := afterSeparator?_spelled hrest
  obtain ⟨_, hsome⟩ := hw.afterSeparator? (rest' ++ rest)
  rw [← List.append_assoc, h] at hsome
  cases hsome

theorem not_occurs (hsep : sep ≠ [])
    (h : ∀ tail, tail <:+ cs → tail ≠ [] → afterSeparator? sep tail = none) : ¬ Occurs sep cs := by
  rintro ⟨written, hw, before, after, rfl⟩
  have htail : written ++ after <:+ before ++ written ++ after :=
    ⟨before, (List.append_assoc ..).symm⟩
  have hnone := h _ htail (by simp [hw.ne_nil hsep])
  obtain ⟨_, hsome⟩ := hw.afterSeparator? after
  cases hnone.symm.trans hsome

-- ---------------------------------------------------------------------------
-- Pieces
-- ---------------------------------------------------------------------------

theorem splitFrom_splits (hsep : sep ≠ []) (piece cs : List Char)
    (h : ∀ tail, tail <:+ piece.reverse → tail ≠ [] → afterSeparator? sep (tail ++ cs) = none) :
    Splits sep (piece.reverse ++ cs) (splitFrom sep piece cs) := by
  fun_induction splitFrom sep piece cs with
  | case1 piece cs rest hrest hlt ih =>
    obtain ⟨written, hw, rfl⟩ := afterSeparator?_spelled hrest
    have hpiece : ¬ Occurs sep piece.reverse :=
      not_occurs hsep fun tail htail hne => afterSeparator?_eq_none_of_append (h tail htail hne)
    exact .more hpiece hw (ih fun tail htail hne => absurd (List.suffix_nil.mp htail) hne)
  -- A separator that is not empty takes a character of the text.
  | case2 piece rest hlt hrest =>
    obtain ⟨written, hw, hcs⟩ := afterSeparator?_spelled hrest
    exact absurd (List.append_eq_nil_iff.mp hcs.symm).1 (hw.ne_nil hsep)
  | case3 piece rest c cs hlt hrest ih =>
    obtain ⟨written, hw, hcs⟩ := afterSeparator?_spelled hrest
    refine absurd ?_ hlt
    rw [hcs, List.length_append]
    exact Nat.lt_add_of_pos_left (List.length_pos_of_ne_nil (hw.ne_nil hsep))
  | case4 piece hnone =>
    rw [List.append_nil]
    refine .last (not_occurs hsep fun tail htail hne => ?_)
    simpa using h tail htail hne
  | case5 piece c cs hnone ih =>
    have hnext : (c :: piece).reverse ++ cs = piece.reverse ++ c :: cs := by simp
    rw [← hnext]
    refine ih fun tail htail hne => ?_
    rw [List.reverse_cons, List.suffix_concat_iff] at htail
    rcases htail with rfl | ⟨tail, rfl, htail⟩
    · exact absurd rfl hne
    · rw [List.append_assoc, List.singleton_append]
      by_cases htail' : tail = []
      · simpa [htail'] using hnone
      · exact h tail htail htail'

theorem splitPieces_splits (hsep : sep ≠ []) (cs : List Char) :
    Splits sep cs (splitPieces sep cs) := by
  refine splitFrom_splits hsep [] cs fun tail htail hne => ?_
  exact absurd (List.suffix_nil.mp htail) hne

namespace Splits

theorem ne_nil (h : Splits sep cs pieces) : pieces ≠ [] := by
  cases h <;> simp

theorem length_eq_one_iff (h : Splits sep cs pieces) : pieces.length = 1 ↔ ¬ Occurs sep cs := by
  cases h with
  | last h => simp [h]
  | @more piece written rest pieces _ hw hrest =>
    have hlen : pieces.length ≠ 0 := by simpa using hrest.ne_nil
    have hoccurs : Occurs sep (piece ++ (written ++ rest)) :=
      ⟨written, hw, piece, rest, List.append_assoc ..⟩
    simp [hlen, hoccurs]

theorem flatten_sublist (h : Splits sep cs pieces) : pieces.flatten.Sublist cs := by
  induction h with
  | last => simp
  | more _ _ _ ih =>
    rw [List.flatten_cons]
    exact (ih.trans (List.sublist_append_right _ _)).append_left _

theorem count_flatten (h : Splits sep cs pieces) (hc : isBlank c = false)
    (hsep : ∀ p ∈ sep, sameIgnoringCase p c = false) : pieces.flatten.count c = cs.count c := by
  induction h with
  | last => simp
  | more _ hw _ ih =>
    simp [ih, List.count_eq_zero.mpr (hw.not_mem hc hsep)]

end Splits

-- ---------------------------------------------------------------------------
-- Marks
-- ---------------------------------------------------------------------------

theorem spelled_mark_iff (h : isMark m = true) : Spelled [m] written ↔
    ∃ before after, before.all isBlank = true ∧ after.all isBlank = true ∧
      written = before ++ m :: after := by
  constructor
  · rintro ⟨hbefore, hword, hafter, -⟩
    obtain ⟨c, _, hc, hnil, rfl⟩ := List.forall₂_cons_left_iff.mp hword
    obtain rfl := List.forall₂_nil_left_iff.mp hnil
    obtain rfl := (sameIgnoringCase_mark_iff h).mp hc
    exact ⟨_, _, hbefore, hafter, rfl⟩
  · rintro ⟨before, after, hbefore, hafter, rfl⟩
    have hword : List.Forall₂ (fun p c => sameIgnoringCase p c = true) [m] [m] :=
      .cons ((sameIgnoringCase_mark_iff h).mpr rfl) .nil
    exact .intro hbefore hword hafter fun hw => by simp [isWord_mark h] at hw

theorem occurs_mark_iff (h : isMark m = true) : Occurs [m] cs ↔ m ∈ cs := by
  constructor
  · rintro ⟨written, hw, hinfix⟩
    obtain ⟨before, after, -, -, rfl⟩ := (spelled_mark_iff h).mp hw
    exact hinfix.subset (by simp)
  · intro hmem
    have hw : Spelled [m] [m] := (spelled_mark_iff h).mpr ⟨[], [], rfl, rfl, rfl⟩
    obtain ⟨before, after, rfl⟩ := List.append_of_mem hmem
    exact ⟨[m], hw, before, after, by simp⟩

theorem map_strip_splitAt_cons (hc : isBlank c = true) (hm : c ≠ m) (cs : List Char) :
    (Form.splitAt m (c :: cs)).map strip = (Form.splitAt m cs).map strip := by
  obtain ⟨first, pieces, h⟩ := List.exists_cons_of_ne_nil (Form.splitAt_ne_nil m cs)
  have hblank : [c].all isBlank = true := by simpa using hc
  have hfirst : strip (c :: first) = strip first := strip_blanks_append hblank first
  simp only [Form.splitAt, if_neg hm, h, List.map_cons, hfirst]

theorem map_strip_splitAt_append (h : blanks.all isBlank = true) (hm : isMark m = true)
    (cs : List Char) : (Form.splitAt m (blanks ++ cs)).map strip = (Form.splitAt m cs).map strip := by
  induction blanks with
  | nil => rfl
  | cons b blanks ih =>
    simp only [List.all_cons, Bool.and_eq_true] at h
    have hb : b ≠ m := by
      rintro rfl
      exact Bool.false_ne_true ((isBlank_mark hm).symm.trans h.1)
    rw [List.cons_append, map_strip_splitAt_cons h.1 hb, ih h.2]

/-- For a mark the blanks that a separator takes are those that stripping the pieces takes. -/
theorem Splits.map_strip_mark (h : Splits [m] cs pieces) (hm : isMark m = true) :
    pieces.map strip = (Form.splitAt m cs).map strip := by
  induction h with
  | last h => rw [Form.splitAt_piece (mt (occurs_mark_iff hm).mpr h)]
  | @more piece written rest pieces h hw _ ih =>
    obtain ⟨before, after, hbefore, hafter, rfl⟩ := (spelled_mark_iff hm).mp hw
    have hpiece : m ∉ piece ++ before := by
      refine List.not_mem_append (mt (occurs_mark_iff hm).mpr h) fun hmem => ?_
      exact Bool.false_ne_true ((isBlank_mark hm).symm.trans (List.all_eq_true.mp hbefore m hmem))
    have hcs : piece ++ (before ++ m :: after ++ rest) = (piece ++ before) ++ m :: (after ++ rest) := by
      simp
    rw [hcs, Form.splitAt_first hpiece, List.map_cons, List.map_cons, strip_append_blanks hbefore,
      map_strip_splitAt_append hafter hm, ih]

end Criteria.Wire
