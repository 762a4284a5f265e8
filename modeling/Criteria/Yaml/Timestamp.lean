import Criteria.Data
import Criteria.Decimal.Numeral
import Criteria.Yaml.Cursor

/-!
# Timestamps

The texts of YAML that name a day, or a moment of a day with seconds and perhaps a
fraction and a distance from universal time.
-/

namespace Criteria.Yaml

structure Clock where
  hour : Nat
  minute : Nat
  second : Nat
  micro : Nat
  offset : Option Int
  deriving Repr, DecidableEq

structure Timestamp where
  year : Nat
  month : Nat
  day : Nat
  clock : Option Clock
  deriving Repr, DecidableEq

namespace Timestamp

abbrev Read (α : Type) := Option (α × List Char)

def number (least most : Nat) (cs : List Char) : Read Nat :=
  let digits := (cs.take most).takeWhile Numeral.isDigitChar
  if digits.length < least then none
  else some (Numeral.valueOf 10 (digits.filterMap (Numeral.digitIn? 10)), cs.drop digits.length)

def mark (m : Char) : List Char → Option (List Char)
  | c :: rest => if c = m then some rest else none
  | [] => none

def betweenDayAndTime (cs : List Char) : Option (List Char) :=
  match cs with
  | 'T' :: rest | 't' :: rest => some rest
  | c :: _ => if isBlank c then some (cs.dropWhile isBlank) else none
  | [] => none

def fraction (cs : List Char) : Nat × List Char :=
  match cs with
  | '.' :: rest =>
    let digits := rest.takeWhile Numeral.isDigitChar
    let first := (digits ++ List.replicate 6 '0').take 6
    (Numeral.valueOf 10 (first.filterMap (Numeral.digitIn? 10)), rest.dropWhile Numeral.isDigitChar)
  | cs => (0, cs)

def zone (cs : List Char) : Option (Option Int) :=
  if cs.isEmpty then some none
  else match cs.dropWhile isBlank with
    | ['Z'] => some (some 0)
    | sign :: rest =>
      if sign = '+' ∨ sign = '-' then do
        let (hours, rest) ← number 1 2 rest
        let minutes ← match rest with
          | [] => some 0
          | ':' :: rest => do
            let (minutes, rest) ← number 2 2 rest
            if rest.isEmpty then some minutes else none
          | _ => none
        let n : Int := hours * 60 + minutes
        return some (if sign = '-' then -n else n)
      else none
    | [] => none

def readClock (cs : List Char) : Option Clock := do
  let (hour, cs) ← number 1 2 cs
  let (minute, cs) ← number 2 2 (← mark ':' cs)
  let (second, cs) ← number 2 2 (← mark ':' cs)
  let (micro, cs) := fraction cs
  let offset ← zone cs
  return { hour, minute, second, micro, offset }

def read? (cs : List Char) : Option Timestamp := do
  let (year, cs) ← number 4 4 cs
  let (month, cs) ← number 1 2 (← mark '-' cs)
  let (day, cs) ← number 1 2 (← mark '-' cs)
  if cs.isEmpty then return { year, month, day, clock := none }
  else return { year, month, day, clock := some (← readClock (← betweenDayAndTime cs)) }

/-- Whether a text is a timestamp without being called one: a day alone has two digits for
the month and two for the day. -/
def isPlain (cs : List Char) : Bool :=
  match read? cs with
  | some t => t.clock.isSome || cs.length == 10
  | none => false

def toData (t : Timestamp) : Except String Data :=
  match t.clock with
  | none => .date <$> Date.make t.year t.month t.day
  | some c => do
    let offset ← c.offset.mapM Moment.checkOffset
    let date ← Date.make t.year t.month t.day
    .moment <$> Moment.make date c.hour c.minute c.second c.micro offset

end Timestamp

end Criteria.Yaml
