import Criteria.Decimal.Binary64

/-!
# Shortest decimal text of a binary number

Of all decimals that round to a number, the shortest is written, and of the shortest the
nearest one. The search goes through the decimal grids of 1, 2, ... 17 digits and looks at
the two neighbours of the number on each grid; the first grid with a neighbour that rounds
back decides. `Layout` holds what the written form chooses beyond the digits.
-/

namespace Criteria.Decimal

structure Digits where
  coefficient : Nat
  exponent : Int
  deriving DecidableEq, Repr

/-- A positive number with its rounding interval, all in the unit `2 ^ exponent / 4`. -/
structure Interval where
  low : Nat
  value : Nat
  high : Nat
  exponent : Int
  closed : Bool

/-- The reals that round to `m · 2 ^ e`: half a unit to each side, a quarter below a power
of two whose lower neighbours lie closer. -/
def intervalOf (m : Nat) (e : Int) : Interval where
  low := 4 * m - (if m = Nat.pow 2 52 ∧ e > Binary64.leastExponent then 1 else 2)
  value := 4 * m
  high := 4 * m + 2
  exponent := e - 2
  closed := m % 2 = 0

def powerOfTen (e : Int) : Nat × Nat :=
  if 0 ≤ e then (Nat.pow 10 e.toNat, 1) else (1, Nat.pow 10 (-e).toNat)

def inGrid (x : Nat) (e k : Int) : Nat × Nat :=
  let (up, down) := Binary64.powerOfTwo e
  let (tens, tenths) := powerOfTen k
  (x * up * tenths, down * tens)

def Interval.holds (i : Interval) (k : Int) (c : Nat) : Bool :=
  let (low, d) := inGrid i.low i.exponent k
  let (high, d') := inGrid i.high i.exponent k
  if i.closed then low ≤ c * d && c * d' ≤ high else low < c * d && c * d' < high

/-- The better neighbour of the number on the grid of `10 ^ k`, if one rounds back. -/
def Interval.onGrid? (i : Interval) (k : Int) : Option Nat :=
  let (num, den) := inGrid i.value i.exponent k
  let below := num / den
  let rest := num % den
  match i.holds k below && below != 0, i.holds k (below + 1) with
  | false, false => none
  | true, false => some below
  | false, true => some (below + 1)
  | true, true =>
    some (if 2 * rest < den ∨ (2 * rest = den ∧ below % 2 = 0) then below else below + 1)

def leadingPower (x : Nat) (e : Int) : Int :=
  let guess : Int := ((x.log2 : Int) + e) * 30103 / 100000
  let atLeast (k : Int) : Bool := let (num, den) := inGrid x e k; den ≤ num
  if atLeast (guess + 1) then guess + 1 else if atLeast guess then guess else guess - 1

def dropZeros : Nat → Nat → Int → Digits
  | 0, c, k => ⟨c, k⟩
  | fuel + 1, c, k => if c ≠ 0 ∧ c % 10 = 0 then dropZeros fuel (c / 10) (k + 1) else ⟨c, k⟩

def shortest (m : Nat) (e : Int) : Digits :=
  let i := intervalOf m e
  let lead := leadingPower i.value i.exponent
  let grids := (List.range 17).map fun n : Nat => lead - (n : Int)
  match grids.findSome? fun k => (i.onGrid? k).map (·, k) with
  | some (c, k) => dropZeros 20 c k
  | none => ⟨m, e⟩

/-- The choices of a written form: the powers of ten of the first digit that are written
positionally, what marks an exponent and how wide it is. -/
structure Layout where
  leastPositional : Int
  greatestPositional : Int
  wholeSuffix : String
  exponentMark : String
  exponentWidth : Nat
  nan : String
  infinity : String

/-- Positional from `1e-4` below `1e16`, with `.0` after a whole number; otherwise an
exponent with its sign and at least two digits. -/
def standardLayout : Layout where
  leastPositional := -4
  greatestPositional := 15
  wholeSuffix := ".0"
  exponentMark := "e"
  exponentWidth := 2
  nan := "nan"
  infinity := "inf"

def padLeft (width : Nat) (s : String) : String :=
  String.ofList (List.replicate (width - s.length) '0') ++ s

def Layout.positional (layout : Layout) (digits : String) (lead : Int) : String :=
  let count : Int := digits.length
  if lead < 0 then
    "0." ++ String.ofList (List.replicate ((-lead).toNat - 1) '0') ++ digits
  else if count ≤ lead + 1 then
    digits ++ String.ofList (List.replicate (lead + 1 - count).toNat '0') ++ layout.wholeSuffix
  else
    let cs := digits.toList
    String.ofList (cs.take (lead + 1).toNat) ++ "." ++ String.ofList (cs.drop (lead + 1).toNat)

def Layout.scientific (layout : Layout) (digits : String) (lead : Int) : String :=
  let mantissa := match digits.toList with
    | [] => ""
    | [d] => String.singleton d
    | d :: rest => String.singleton d ++ "." ++ String.ofList rest
  let sign := if lead < 0 then "-" else "+"
  mantissa ++ layout.exponentMark ++ sign ++ padLeft layout.exponentWidth (toString lead.natAbs)

def Layout.write (layout : Layout) : Binary64 → String
  | .nan => layout.nan
  | .infinity negative => (if negative then "-" else "") ++ layout.infinity
  | .finite negative m e =>
    let sign := if negative then "-" else ""
    if m = 0 then sign ++ "0" ++ layout.wholeSuffix
    else
      let d := shortest m e
      let digits := toString d.coefficient
      let lead : Int := d.exponent + digits.length - 1
      sign ++
        if layout.leastPositional ≤ lead ∧ lead ≤ layout.greatestPositional then
          layout.positional digits lead
        else layout.scientific digits lead

end Criteria.Decimal
