import Criteria.Text.Base64
import Criteria.Text.Case
import Criteria.Yaml.Cursor
import Criteria.Yaml.Tag

/-!
# Values of scalars

What a scalar stands for under its tag. Underscores in numbers do not count, a colon
separates digits of base 60, and a leading zero announces base 2, 8 or 16.
-/

namespace Criteria.Yaml.Scalar

structure Signed where
  negative : Bool
  body : List Char

def signed (cs : List Char) : Result Signed :=
  match cs.filter (· != '_') with
  | [] => .error (.fault .noNumeral)
  | '-' :: body => .ok ⟨true, body⟩
  | '+' :: body => .ok ⟨false, body⟩
  | body => .ok ⟨false, body⟩

def readWhole (base : Nat) (cs : List Char) : Result Int :=
  orNumeral (Numeral.readWholeIn base (String.ofList cs))

def isSixty (cs : List Char) : Bool :=
  cs.contains ':'

def magnitude (cs : List Char) : Result Int :=
  match cs with
  | [] => .error (.fault .noNumeral)
  | ['0'] => .ok 0
  | '0' :: 'b' :: digits => readWhole 2 digits
  | '0' :: 'x' :: digits => readWhole 16 digits
  | '0' :: _ => readWhole 8 cs
  | _ =>
    if isSixty cs then do
      let digits ← (Tag.splitAtColons cs).mapM (readWhole 10)
      return digits.foldl (fun n d => n * 60 + d) 0
    else readWhole 10 cs

def int (text : String) : Result Data := do
  let s ← signed text.toList
  let n ← magnitude s.body
  return .int (if s.negative then -n else n)

def readNumber (cs : List Char) : Result Binary64 :=
  orNumeral (Numeral.readNumber (String.ofList cs))

/-- The sum of digits in base 60, the last digit first. -/
def sumSixtieths (digits : List Binary64) : Binary64 :=
  (digits.reverse.foldl
    (fun (sum, base) d => (sum.add (d.mul (.ofRatio false base 1)), base * 60))
    (Binary64.ofRatio false 0 1, 1)).1

def fraction (cs : List Char) : Result Binary64 :=
  if cs = ".inf".toList then .ok (.infinity false)
  else if cs = ".nan".toList then .ok .nan
  else if isSixty cs then sumSixtieths <$> (Tag.splitAtColons cs).mapM readNumber
  else readNumber cs

def float (text : String) : Result Data := do
  let s ← signed text.toList
  let x ← fraction (Text.lower s.body)
  return .float (if s.negative then x.neg else x)

def boolValues : List (String × Bool) :=
  [("yes", true), ("no", false), ("true", true), ("false", false), ("on", true), ("off", false)]

def bool (text : String) : Result Data :=
  match boolValues.lookup (Text.lowered text) with
  | some b => .ok (.bool b)
  | none => .error (.fault .unknownWord)

def timestamp (text : String) : Result Data :=
  match Timestamp.read? (Tag.dropLastBreak text.toList) with
  | some t =>
    match t.toData with
    | .ok d => .ok d
    | .error message => .error (.fault (.calendar message))
  | none => .error (.fault .notText)

def octets (text : String) : Result Data :=
  let cs := text.toList
  match if cs.all (·.val < 0x80) then Text.octetsOfBase64? cs else none with
  | some os => .ok (.octets os)
  | none => malformed

def value (tag : Tag) (text : String) : Result Data :=
  match tag with
  | .null => .ok .null
  | .bool => bool text
  | .int => int text
  | .float => float text
  | .timestamp => timestamp text
  | .text => .ok (.text text)
  | .octets => octets text
  | _ => malformed

end Criteria.Yaml.Scalar
