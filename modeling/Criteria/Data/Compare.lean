import Criteria.Data

/-!
# Equality and order of values

`alike` compares by meaning: truth values count as 0 and 1, whole and fractional numbers
by their exact value, sets and records without regard to order. `greater?` is defined
between numbers, texts, octets, sequences, sets, days and moments, each with its own kind
only.
-/

namespace Criteria

inductive Number where
  | whole (n : Int)
  | binary (x : Binary64)

namespace Number

def compare? : Number → Number → Option Ordering
  | whole a, whole b => some (Ord.compare a b)
  | whole a, binary y => Binary64.compareInt? a y
  | binary x, whole b => (Binary64.compareInt? b x).map Ordering.swap
  | binary x, binary y => x.compare? y

def alike (a b : Number) : Bool :=
  a.compare? b == some .eq

def greater (a b : Number) : Bool :=
  a.compare? b == some .gt

end Number

namespace Data

def number? : Data → Option Number
  | bool b => some (.whole (if b then 1 else 0))
  | int n => some (.whole n)
  | float x => some (.binary x)
  | _ => none

def alikeScalar (a b : Data) : Bool :=
  match a, b with
  | null, null => true
  | text s, text t => s == t
  | octets s, octets t => s == t
  | date x, date y => x == y
  | moment x, moment y => x.comparable y && x.instant == y.instant
  | _, _ =>
    match a.number?, b.number? with
    | some x, some y => x.alike y
    | _, _ => false

mutual

def alike : Data → Data → Bool
  | list xs, list ys | tuple xs, tuple ys => alikeAll xs ys
  | set xs, set ys => xs.length == ys.length && allIn xs ys
  | record es, record fs => es.length == fs.length && entriesIn es fs
  | a, b => alikeScalar a b
termination_by structural a => a

def alikeAll : List Data → List Data → Bool
  | [], [] => true
  | x :: xs, y :: ys => alike x y && alikeAll xs ys
  | _, _ => false

def allIn : List Data → List Data → Bool
  | [], _ => true
  | x :: xs, ys => ys.any (fun y => alike x y) && allIn xs ys

def entriesIn : List (Data × Data) → List (Data × Data) → Bool
  | [], _ => true
  | (k, v) :: es, fs => fs.any (fun f => alike k f.1 && alike v f.2) && entriesIn es fs

end

def greaterScalar? (a b : Data) : Option Bool :=
  match a, b with
  | text s, text t => some (decide (t < s))
  | octets s, octets t => some (decide (t < s))
  | date x, date y => some (y.isBefore x)
  | moment x, moment y => if x.comparable y then some (decide (y.instant < x.instant)) else none
  | set xs, set ys => some (allIn ys xs && ys.length < xs.length)
  | _, _ =>
    match a.number?, b.number? with
    | some x, some y => some (x.greater y)
    | _, _ => none

mutual

/-- Whether the first value is greater; `none` for values without a common order. -/
def greater? : Data → Data → Option Bool
  | list xs, list ys | tuple xs, tuple ys => greaterAll? xs ys
  | a, b => greaterScalar? a b

/-- The first place where two sequences differ decides, then their lengths. -/
def greaterAll? : List Data → List Data → Option Bool
  | [], _ => some false
  | _ :: _, [] => some true
  | x :: xs, y :: ys => if alike x y then greaterAll? xs ys else greater? x y

end

/-- An entry put into a record: an entry with a like key keeps its place and its key. -/
def put (key value : Data) : List (Data × Data) → List (Data × Data)
  | [] => [(key, value)]
  | (k, v) :: rest => if alike k key then (k, value) :: rest else (k, v) :: put key value rest

/-- A record whose keys are pairwise different; of like keys the first place and the last
value stay. -/
def recordOf (entries : List (Data × Data)) : List (Data × Data) :=
  entries.foldl (fun es (k, v) => put k v es) []

end Data

end Criteria
