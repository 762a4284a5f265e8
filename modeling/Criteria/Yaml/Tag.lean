import Criteria.Yaml.Timestamp

/-!
# Tags of YAML nodes

A tag says what a node stands for. A plain scalar without a tag gets one from its text:
the words and the number forms of YAML 1.1.
-/

namespace Criteria.Yaml

inductive Tag where
  | null
  | bool
  | int
  | float
  | timestamp
  | text
  | octets
  | sequence
  | mapping
  | set
  | orderedMapping
  | pairs
  | merge
  /-- The key of the value that a mapping stands for where a scalar is wanted. -/
  | value
  | other
  deriving Repr, DecidableEq

namespace Tag

def start : String := "tag:yaml.org,2002:"

def names : List (String × Tag) :=
  [("null", null), ("bool", bool), ("int", int), ("float", float), ("timestamp", timestamp),
    ("str", text), ("binary", octets), ("seq", sequence), ("map", mapping), ("set", set),
    ("omap", orderedMapping), ("pairs", pairs), ("merge", merge), ("value", value)]

def ofUri (uri : String) : Tag :=
  ((names.find? fun (name, _) => start ++ name == uri).map (·.2)).getD other

def isCollection : Tag → Bool
  | sequence | mapping | set | orderedMapping | pairs => true
  | _ => false

/-! ## Plain scalars -/

def isDigit : Char → Bool :=
  Numeral.isDigitChar

def dropSign : List Char → List Char
  | '-' :: rest | '+' :: rest => rest
  | cs => cs

def isRun : List Char → Bool
  | c :: rest => isDigit c && rest.all fun c => isDigit c || c == '_'
  | [] => false

def isSixtieth : List Char → Bool
  | [a] => isDigit a
  | [a, b] => '0' ≤ a && a ≤ '5' && isDigit b
  | _ => false

def isExponent : List Char → Bool
  | e :: sign :: digits =>
    (e == 'e' || e == 'E') && (sign == '-' || sign == '+') && !digits.isEmpty && digits.all isDigit
  | _ => false

def splitAtColons (cs : List Char) : List (List Char) :=
  cs.splitOn ':'

/-- A whole number in base 60: pieces between colons, none but the first above 59. -/
def isSexagesimal (cs : List Char) : Bool :=
  match splitAtColons cs with
  | first :: second :: rest =>
    isRun first && first.head? != some '0' && (second :: rest).all isSixtieth
  | _ => false

def isOther (mark : Char) (p : Char → Bool) : List Char → Bool
  | '0' :: m :: digits => m == mark && !digits.isEmpty && digits.all fun c => p c || c == '_'
  | _ => false

def isOctal : List Char → Bool
  | '0' :: digits => !digits.isEmpty && digits.all fun c => ('0' ≤ c && c ≤ '7') || c == '_'
  | _ => false

def isInt (cs : List Char) : Bool :=
  let body := dropSign cs
  isOther 'b' (fun c => c == '0' || c == '1') body ||
    isOther 'x' (fun c => (Numeral.digitIn? 16 c).isSome) body ||
    isOctal body || body == ['0'] || (isRun body && body.head? != some '0') || isSexagesimal body

def isFraction (cs : List Char) : Bool :=
  let rest := cs.dropWhile fun c => isDigit c || c == '_'
  rest.isEmpty || isExponent rest

/-- Digits around a point; the sign needs a digit before the point. -/
def isPointed (cs : List Char) : Bool :=
  match cs with
  | '.' :: d :: rest => isDigit d && isFraction rest
  | _ =>
    let body := dropSign cs
    isRun (body.takeWhile (· != '.')) &&
      match body.dropWhile (· != '.') with
      | '.' :: rest => isFraction rest
      | _ => false

def isPointedSexagesimal (cs : List Char) : Bool :=
  let body := dropSign cs
  match splitAtColons (body.takeWhile (· != '.')), body.dropWhile (· != '.') with
  | first :: second :: rest, '.' :: fraction =>
    isRun first && (second :: rest).all isSixtieth && fraction.all fun c => isDigit c || c == '_'
  | _, _ => false

def infinityWords : List String := [".inf", ".Inf", ".INF"]

def nanWords : List String := [".nan", ".NaN", ".NAN"]

def isFloat (cs : List Char) : Bool :=
  isPointed cs || isPointedSexagesimal cs || infinityWords.contains (String.ofList (dropSign cs)) ||
    nanWords.contains (String.ofList cs)

def boolWords : List String :=
  ["yes", "Yes", "YES", "no", "No", "NO", "true", "True", "TRUE", "false", "False", "FALSE",
    "on", "On", "ON", "off", "Off", "OFF"]

def nullWords : List String := ["", "~", "null", "Null", "NULL"]

/-- A line feed at the end does not count. -/
def dropLastBreak (cs : List Char) : List Char :=
  if cs.length > 1 ∧ cs.getLast? = some '\n' then cs.dropLast else cs

def ofPlain (text : String) : Tag :=
  let cs := dropLastBreak text.toList
  let word := String.ofList cs
  if boolWords.contains word then bool
  else if isFloat cs then float
  else if isInt cs then int
  else if word = "<<" then merge
  else if nullWords.contains word then null
  else if Timestamp.isPlain cs then timestamp
  else if word = "=" then value
  else if ["!", "&", "*"].contains word then other
  else .text

end Tag

end Criteria.Yaml
