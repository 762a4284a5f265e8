/-!
# Binary64 numbers

A finite number is `± significand · 2 ^ exponent` in the one form with a significand
below `2 ^ 53` that is either at least `2 ^ 52` or has the least exponent. `ofRatio`
rounds an exact quotient to the nearest number, a tie to the even significand.
-/

namespace Criteria

inductive Binary64 where
  | nan
  | infinity (negative : Bool)
  | finite (negative : Bool) (significand : Nat) (exponent : Int)
  deriving DecidableEq, Repr, Inhabited

namespace Binary64

def leastExponent : Int := -1074

def greatestExponent : Int := 971

/-- `num / den` rounded to a whole number, a tie to the even one. -/
def roundHalfEven (num den : Nat) : Nat :=
  let q := num / den
  let r := num % den
  if 2 * r > den ∨ (2 * r = den ∧ q % 2 = 1) then q + 1 else q

def powerOfTwo (e : Int) : Nat × Nat :=
  if 0 ≤ e then (Nat.pow 2 e.toNat, 1) else (1, Nat.pow 2 (-e).toNat)

/-- The exponent that gives `num / den` a significand of 53 bits, or the least one. -/
def exponentFor (num den : Nat) : Int :=
  let guess : Int := (num.log2 : Int) - den.log2 - 52
  let (up, down) := powerOfTwo guess
  let exact := if num * down < Nat.pow 2 52 * (den * up) then guess - 1 else guess
  max exact leastExponent

def ofRatio (negative : Bool) (num den : Nat) : Binary64 :=
  if num = 0 ∨ den = 0 then .finite negative 0 leastExponent
  else
    let e := exponentFor num den
    let (up, down) := powerOfTwo e
    let m := roundHalfEven (num * down) (den * up)
    let (m, e) := if m = Nat.pow 2 53 then (Nat.pow 2 52, e + 1) else (m, e)
    if e > greatestExponent then .infinity negative else .finite negative m e

/-- The number nearest to `± digits · 10 ^ exponent`. Beyond the range that any number can
reach, the power is not computed. -/
def ofDecimal (negative : Bool) (digits : Nat) (exponent : Int) : Binary64 :=
  if digits = 0 then .finite negative 0 leastExponent
  else
    let magnitude : Int := exponent + (digits.log2 * 3 / 10 : Nat)
    if magnitude > 400 then .infinity negative
    else if exponent + (digits.log2 : Int) < -400 then .finite negative 0 leastExponent
    else if 0 ≤ exponent then ofRatio negative (digits * Nat.pow 10 exponent.toNat) 1
    else ofRatio negative digits (Nat.pow 10 (-exponent).toNat)

def isZero : Binary64 → Bool
  | finite _ 0 _ => true
  | _ => false

def ratio? : Binary64 → Option (Int × Nat)
  | finite negative m e =>
    let (up, down) := powerOfTwo e
    some ((if negative then -1 else 1) * (m * up : Nat), down)
  | _ => none

/-- Order of numbers; `nan` is unordered to everything, itself included. -/
def compare? : Binary64 → Binary64 → Option Ordering
  | nan, _ | _, nan => none
  | infinity a, infinity b => some (Ord.compare (!a) (!b))
  | infinity a, _ => some (if a then .lt else .gt)
  | _, infinity b => some (if b then .gt else .lt)
  | x, y =>
    match x.ratio?, y.ratio? with
    | some (n, d), some (n', d') => some (Ord.compare (n * d') (n' * d))
    | _, _ => none

def compareInt? (n : Int) : Binary64 → Option Ordering
  | nan => none
  | infinity negative => some (if negative then .gt else .lt)
  | x =>
    match x.ratio? with
    | some (m, d) => some (Ord.compare (n * d) m)
    | none => none

def truncate? (x : Binary64) : Option Int :=
  x.ratio?.map fun (n, d) => n.tdiv d

def isNegative : Binary64 → Bool
  | nan => false
  | infinity negative | finite negative _ _ => negative

def neg : Binary64 → Binary64
  | nan => nan
  | infinity negative => infinity !negative
  | finite negative m e => finite (!negative) m e

/-- The exact sum, rounded once. A sum that vanishes is negative only between negative
zeros. -/
def add : Binary64 → Binary64 → Binary64
  | nan, _ | _, nan => nan
  | infinity a, infinity b => if a = b then infinity a else nan
  | infinity a, _ | _, infinity a => infinity a
  | x, y =>
    match x.ratio?, y.ratio? with
    | some (n, d), some (n', d') =>
      let sum := n * d' + n' * d
      if sum = 0 then .finite (x.isNegative && y.isNegative) 0 leastExponent
      else ofRatio (sum < 0) sum.natAbs (d * d')
    | _, _ => nan

def mul : Binary64 → Binary64 → Binary64
  | nan, _ | _, nan => nan
  | infinity a, y => if y.isZero then nan else infinity (a != y.isNegative)
  | x, infinity b => if x.isZero then nan else infinity (x.isNegative != b)
  | x, y =>
    match x.ratio?, y.ratio? with
    | some (n, d), some (n', d') =>
      ofRatio (x.isNegative != y.isNegative) (n * n').natAbs (d * d')
    | _, _ => nan

end Binary64

end Criteria
