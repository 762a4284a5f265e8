/-!
# Blank characters and stripped text

White space in the widest sense: the space separators, the line and paragraph
separators and the control characters that separate text. `strip` removes it at both
ends and nowhere else.
-/

namespace Criteria.Text

def isBlank (c : Char) : Bool :=
  let n := c.toNat
  (9 ≤ n && n ≤ 13) || (28 ≤ n && n ≤ 32) || n == 0x85 || n == 0xA0 || n == 0x1680 ||
    (0x2000 ≤ n && n ≤ 0x200A) || n == 0x2028 || n == 0x2029 || n == 0x202F ||
    n == 0x205F || n == 0x3000

def dropBlanksEnd (cs : List Char) : List Char :=
  (cs.reverse.dropWhile isBlank).reverse

def strip (cs : List Char) : List Char :=
  dropBlanksEnd (cs.dropWhile isBlank)

def isAllBlank (cs : List Char) : Bool :=
  cs.all isBlank

def stripped (s : String) : String :=
  String.ofList (strip s.toList)

theorem strip_eq_nil_of_all_blank {cs : List Char} (h : cs.all isBlank) : strip cs = [] := by
  have : cs.dropWhile isBlank = [] := by
    induction cs with
    | nil => rfl
    | cons c cs ih => simp_all
  simp [strip, dropBlanksEnd, this]

end Criteria.Text
