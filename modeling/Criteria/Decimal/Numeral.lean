import Criteria.Decimal.Binary64
import Criteria.Text.Blank
import Criteria.Text.Digit
import Criteria.Text.Quoted

/-!
# Numerals

Reading whole and fractional numbers from text. Blank characters around a numeral do not
count, digits of every script do, and an underscore may stand between two digits. Whole
numbers are limited to `digitLimit` digits, both in reading and in writing.
-/

namespace Criteria.Numeral

open Criteria.Text

def digitLimit : Nat := 4300

inductive Error where
  | notWhole (base : Nat) (text : String)
  | notNumber (text : String)
  | tooLong (digits : Nat)
  deriving DecidableEq, Repr

def shownLimit : Nat := 200

def Error.message : Error → String
  | .notWhole base text =>
    s!"invalid literal for int() with base {base}: " ++
      String.ofList ((quoteChars text.toList).take shownLimit)
  | .notNumber text => "could not convert string to float: " ++ quoted text
  | .tooLong digits =>
    s!"Exceeds the limit ({digitLimit} digits) for integer string conversion: " ++
      s!"value has {digits} digits; use sys.set_int_max_str_digits() to increase the limit"

/-- Blank characters that may stand around a numeral: all but the control characters that
separate files, groups, records and units. -/
def isPadding (c : Char) : Bool :=
  isBlank c && !(28 ≤ c.toNat && c.toNat ≤ 31)

def normalizeChar (c : Char) : Char :=
  if c.toNat < 128 then c
  else match digitValue? c with
    | some d => Char.ofNat ('0'.toNat + d)
    | none => c

def normalize (cs : List Char) : List Char :=
  ((cs.dropWhile isPadding).reverse.dropWhile isPadding).reverse.map normalizeChar

def takeSign : List Char → Bool × List Char
  | '-' :: rest => (true, rest)
  | '+' :: rest => (false, rest)
  | rest => (false, rest)

def digitIn? (base : Nat) (c : Char) : Option Nat :=
  let value? :=
    if '0' ≤ c ∧ c ≤ '9' then some (c.toNat - '0'.toNat)
    else if 'a' ≤ c ∧ c ≤ 'z' then some (c.toNat - 'a'.toNat + 10)
    else if 'A' ≤ c ∧ c ≤ 'Z' then some (c.toNat - 'A'.toNat + 10)
    else none
  value?.filter (· < base)

def valueOf (base : Nat) (digits : List Nat) : Nat :=
  digits.foldl (fun n d => n * base + d) 0

def isDigitChar (c : Char) : Bool :=
  '0' ≤ c && c ≤ '9'

/-- Underscores stand only between two digits. -/
def underscoresOk (isDigit : Char → Bool) : Option Char → List Char → Bool
  | before, [] => before != some '_'
  | before, c :: rest =>
    (if c = '_' then before.any isDigit
      else if before = some '_' then isDigit c
      else true) && underscoresOk isDigit (some c) rest

def radixMarks (base : Nat) : List Char :=
  if base = 2 then ['b', 'B']
  else if base = 8 then ['o', 'O']
  else if base = 16 then ['x', 'X']
  else []

def takeRadix (base : Nat) : List Char → Option Char × List Char
  | '0' :: mark :: rest =>
    if (radixMarks base).contains mark then (some '0', rest) else (none, '0' :: mark :: rest)
  | cs => (none, cs)

/-- A whole number in the digits of a base. Only decimal numerals are limited. -/
def readWholeIn (base : Nat) (text : String) : Except Error Int :=
  let (negative, body) := takeSign (normalize text.toList)
  let (before, body) := takeRadix base body
  let isDigit c := (digitIn? base c).isSome
  let run := body.takeWhile fun c => isDigit c || c == '_'
  let digits := run.filterMap (digitIn? base)
  if digits.isEmpty ∨ !underscoresOk isDigit before run then .error (.notWhole base text)
  else if base = 10 ∧ digits.length > digitLimit then .error (.tooLong digits.length)
  else if run.length < body.length then .error (.notWhole base text)
  else
    let n := valueOf base digits
    .ok (if negative then -(n : Int) else n)

def readWhole (text : String) : Except Error Int :=
  readWholeIn 10 text

/-- The digits of a run and the power of ten that its fraction digits stand for. -/
structure Fraction where
  digits : List Char
  places : Nat

def takeFraction (cs : List Char) : Option (Fraction × List Char) :=
  let whole := cs.takeWhile isDigitChar
  let rest := cs.dropWhile isDigitChar
  let (part, rest) := match rest with
    | '.' :: after => (after.takeWhile isDigitChar, after.dropWhile isDigitChar)
    | rest => ([], rest)
  if whole.isEmpty && part.isEmpty then none
  else some (⟨whole ++ part, part.length⟩, rest)

def readExponent? : List Char → Option Int
  | [] => some 0
  | e :: rest =>
    let (negative, digits) := takeSign rest
    if (e = 'e' ∨ e = 'E') ∧ !digits.isEmpty ∧ digits.all isDigitChar then
      let n := valueOf 10 (digits.map fun c => c.toNat - '0'.toNat)
      some (if negative then -(n : Int) else n)
    else none

def lowerAscii (c : Char) : Char :=
  if 'A' ≤ c ∧ c ≤ 'Z' then Char.ofNat (c.toNat + 32) else c

def readPlain? (cs : List Char) : Option Binary64 :=
  let (negative, body) := takeSign cs
  let name := String.ofList (body.map lowerAscii)
  if name = "inf" ∨ name = "infinity" then some (.infinity negative)
  else if name = "nan" then some .nan
  else do
    let (fraction, rest) ← takeFraction body
    let exponent ← readExponent? rest
    let n := valueOf 10 (fraction.digits.map fun c => c.toNat - '0'.toNat)
    return .ofDecimal negative n (exponent - fraction.places)

def readNumber (text : String) : Except Error Binary64 :=
  let cs := normalize text.toList
  let plain := cs.filter (· != '_')
  match if underscoresOk isDigitChar none cs then readPlain? plain else none with
  | some x => .ok x
  | none => .error (.notNumber text)

def writeWhole? (n : Int) : Option String :=
  let digits := Nat.toDigits 10 n.natAbs
  if digits.length ≤ digitLimit then
    some (String.ofList (if n < 0 then '-' :: digits else digits))
  else none

end Criteria.Numeral
