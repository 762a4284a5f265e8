import Criteria.Text.Case
import Criteria.Text.Infix
import Criteria.Proofs.Text.Strip

/-!
# Texts that grow at their end

What is searched for is a text that is still being typed, stripped and in small letters. More
characters at its end may bring back blank characters that stripping took away, and they leave the
small letters before them as they were, since of all letters only a capital sigma looks at its
neighbours. So what was searched for so far is the beginning of what is searched for next.
-/

namespace Criteria.Text

variable {needle cs rest before : List Char} {c : Char}

theorem occursIn_iff : occursIn needle cs = true ↔ needle <:+: cs := by
  induction cs with
  | nil => simp [occursIn]
  | cons c cs ih =>
    rw [occursIn, Bool.or_eq_true, List.isPrefixOf_iff_prefix, ih, List.infix_cons_iff]

-- ---------------------------------------------------------------------------
-- Small letters
-- ---------------------------------------------------------------------------

theorem lowerAt_of_ne_sigma (h : c ≠ 'Σ') (after after' : List Char) :
    lowerAt before c after = lowerAt before c after' := by
  simp only [lowerAt, if_neg h]

theorem lowerFrom_prefix_append (h : 'Σ' ∉ cs) :
    lowerFrom before cs <+: lowerFrom before (cs ++ rest) := by
  induction cs generalizing before with
  | nil => exact List.nil_prefix
  | cons c cs ih =>
    obtain ⟨hc, hcs⟩ := not_or.mp (mt List.mem_cons.mpr h)
    rw [List.cons_append, lowerFrom, lowerFrom, lowerAt_of_ne_sigma (Ne.symm hc) cs (cs ++ rest)]
    exact (List.prefix_append_right_inj _).mpr (ih hcs)

theorem lower_prefix_append (h : 'Σ' ∉ cs) : lower cs <+: lower (cs ++ rest) :=
  lowerFrom_prefix_append h

-- ---------------------------------------------------------------------------
-- Stripped texts
-- ---------------------------------------------------------------------------

theorem strip_prefix_append (hne : cs ≠ []) (h : strip cs = cs) : cs <+: strip (cs ++ rest) := by
  obtain ⟨blanks, trailing, hblanks, htrailing, hrest⟩ := exists_eq_strip rest
  by_cases hnone : strip rest = []
  · -- Nothing but blank characters was added.
    have hblank : rest.all isBlank = true := by
      rw [hrest, hnone, List.nil_append, List.all_append, hblanks, htrailing, Bool.and_self]
    exact ⟨[], by rw [List.append_nil, strip_append_blanks hblank, h]⟩
  · have hgrown : strip (cs ++ rest) = cs ++ blanks ++ strip rest := by
      conv_lhs => rw [hrest, ← List.append_assoc, ← List.append_assoc]
      rw [strip_append_blanks htrailing, strip_append_append hne h hnone (strip_strip rest)]
    rw [hgrown, List.append_assoc]
    exact List.prefix_append _ _

theorem strip_prefix_strip_append (hne : strip cs ≠ []) : strip cs <+: strip (cs ++ rest) := by
  obtain ⟨blanks, trailing, hblanks, -, hcs⟩ := exists_eq_strip cs
  have hgrown : strip (cs ++ rest) = strip (strip cs ++ (trailing ++ rest)) := by
    conv_lhs => rw [hcs]
    rw [List.append_assoc, List.append_assoc, strip_blanks_append hblanks]
  rw [hgrown]
  exact strip_prefix_append hne (strip_strip cs)

end Criteria.Text
