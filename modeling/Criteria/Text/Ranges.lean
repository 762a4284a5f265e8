/-!
# Character classes by code point

A class that no formula describes is a list of closed ranges of code points, in
ascending order. A case mapping is a list of runs that share one distance.
-/

namespace Criteria.Text

abbrev Ranges := List (Nat × Nat)

def Ranges.contains (ranges : Ranges) (c : Char) : Bool :=
  ranges.any fun (low, high) => low ≤ c.toNat && c.toNat ≤ high

/-- The code points `first`, `first + step`, ... up to `last`, each sent `shift` further. -/
structure Run where
  first : Nat
  last : Nat
  step : Nat
  shift : Int

def Run.image? (run : Run) (c : Char) : Option Char :=
  let n := c.toNat
  if run.first ≤ n ∧ n ≤ run.last ∧ (n - run.first) % run.step = 0 then
    some (Char.ofNat (n + run.shift).toNat)
  else none

def image? (runs : List Run) (c : Char) : Option Char :=
  runs.findSome? (·.image? c)

end Criteria.Text
