import Criteria.Decimal.Shortest

/-!
# Dates and moments

A day of the proleptic Gregorian calendar, and a moment of a day that may carry its
distance from universal time. Moments with and without that distance are never compared.
-/

namespace Criteria

structure Date where
  year : Nat
  month : Nat
  day : Nat
  deriving DecidableEq, Repr, Inhabited

namespace Date

def isLeap (year : Nat) : Bool :=
  year % 4 = 0 && (year % 100 != 0 || year % 400 = 0)

def daysIn (year month : Nat) : Nat :=
  if month = 2 then (if isLeap year then 29 else 28)
  else if month = 4 ∨ month = 6 ∨ month = 9 ∨ month = 11 then 30
  else 31

def make (year month day : Nat) : Except String Date :=
  if year < 1 ∨ 9999 < year then .error s!"year {year} is out of range"
  else if month < 1 ∨ 12 < month then .error "month must be in 1..12"
  else if day < 1 ∨ daysIn year month < day then .error "day is out of range for month"
  else .ok ⟨year, month, day⟩

def pad (width n : Nat) : String :=
  Decimal.padLeft width (toString n)

def iso (d : Date) : String :=
  s!"{pad 4 d.year}-{pad 2 d.month}-{pad 2 d.day}"

def ordinal (d : Date) : Nat :=
  let y := d.year - 1
  y * 365 + y / 4 - y / 100 + y / 400 +
    (List.range (d.month - 1)).foldr (fun m n => daysIn d.year (m + 1) + n) 0 + (d.day - 1)

def isBefore (a b : Date) : Bool :=
  a.ordinal < b.ordinal

end Date

structure Moment where
  date : Date
  hour : Nat
  minute : Nat
  second : Nat
  micro : Nat
  /-- Minutes ahead of universal time, if that is known. -/
  offset : Option Int := none
  deriving DecidableEq, Repr, Inhabited

namespace Moment

def minutesPerDay : Int := 1440

def make (date : Date) (hour minute second micro : Nat) (offset : Option Int) :
    Except String Moment :=
  if 24 ≤ hour then .error "hour must be in 0..23"
  else if 60 ≤ minute then .error "minute must be in 0..59"
  else if 60 ≤ second then .error "second must be in 0..59"
  else .ok ⟨date, hour, minute, second, micro, offset⟩

def spanText (minutes : Int) : String :=
  let days := minutes.fdiv minutesPerDay
  let seconds := minutes.fmod minutesPerDay * 60
  let parts := (if days = 0 then [] else [s!"days={days}"]) ++
    (if seconds = 0 then [] else [s!"seconds={seconds}"])
  let listed := ", ".intercalate parts
  s!"datetime.timedelta({listed})"

def checkOffset (minutes : Int) : Except String Int :=
  if minutes.natAbs < minutesPerDay.natAbs then .ok minutes
  else .error <| "offset must be a timedelta strictly between -timedelta(hours=24) and " ++
    s!"timedelta(hours=24), not {spanText minutes}."

def offsetText (offset : Int) : String :=
  let n := offset.natAbs
  let sign := if offset < 0 then "-" else "+"
  s!"{sign}{Date.pad 2 (n / 60)}:{Date.pad 2 (n % 60)}"

def clockText (m : Moment) : String :=
  let fraction := if m.micro = 0 then "" else "." ++ Date.pad 6 m.micro
  s!"{Date.pad 2 m.hour}:{Date.pad 2 m.minute}:{Date.pad 2 m.second}{fraction}" ++
    (m.offset.map offsetText).getD ""

def iso (m : Moment) : String :=
  m.date.iso ++ "T" ++ m.clockText

def text (m : Moment) : String :=
  m.date.iso ++ " " ++ m.clockText

/-- Microseconds since the start of the year 1, on the clock of universal time when the
distance from it is known. -/
def instant (m : Moment) : Int :=
  let minutes : Int := (m.date.ordinal : Int) * minutesPerDay + m.hour * 60 + m.minute
  ((minutes - m.offset.getD 0) * 60 + m.second) * 1000000 + m.micro

def comparable (a b : Moment) : Bool :=
  a.offset.isSome == b.offset.isSome

end Moment

end Criteria
