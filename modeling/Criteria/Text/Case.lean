import Criteria.Text.CaseTable

/-!
# Letter case

`lower` and `upper` are the full mappings on text. A capital sigma becomes a final sigma
at the end of a word and a plain one elsewhere; every other small form is chosen letter by
letter. `sameIgnoringCase` compares single characters and never looks at neighbours.
-/

namespace Criteria.Text

def lowerChar (c : Char) : Char :=
  if c.toNat < 128 then c.toLower
  else if c = 'İ' then 'i'
  else (image? lowercaseRuns c).getD c

def isCaseIgnorable (c : Char) : Bool :=
  caseIgnorableRanges.contains c

def isCased (c : Char) : Bool :=
  casedRanges.contains c

/-- Whether the nearest character that is not passed over has case. -/
def besideCased (cs : List Char) : Bool :=
  match cs.dropWhile isCaseIgnorable with
  | [] => false
  | c :: _ => isCased c

/-- The small form of one character, given the text before it (nearest first) and after. -/
def lowerAt (before : List Char) (c : Char) (after : List Char) : List Char :=
  if c = 'Σ' then
    [if besideCased before && !besideCased after then 'ς' else 'σ']
  else if c = 'İ' then ['i', '\u0307']
  else [lowerChar c]

def lowerFrom (before : List Char) : List Char → List Char
  | [] => []
  | c :: rest => lowerAt before c rest ++ lowerFrom (c :: before) rest

def lower (cs : List Char) : List Char :=
  lowerFrom [] cs

def upperOf (c : Char) : List Char :=
  match longUppercase.find? (·.1 == c.toNat) with
  | some (_, codes) => codes.map Char.ofNat
  | none => [(image? uppercaseRuns c).getD c]

def upper (cs : List Char) : List Char :=
  cs.flatMap upperOf

/-- The small letters that count as `c` when case is ignored, `c` itself included. -/
def caseVariants (c : Char) : List Char :=
  let small := lowerChar c
  match sharedCapitals.find? (·.1 == small.toNat) with
  | some (_, codes) => small :: codes.map Char.ofNat
  | none => [small]

def sameIgnoringCase (pattern c : Char) : Bool :=
  (caseVariants pattern).contains (lowerChar c)

def lowered (s : String) : String :=
  String.ofList (lower s.toList)

def uppered (s : String) : String :=
  String.ofList (upper s.toList)

end Criteria.Text
