import Criteria.Data.Text

/-!
# JSON text

Values as JSON text of ASCII characters, on one line or indented. Characters beyond the
basic plane are written as surrogate pairs. Sets, days and moments are written as the text
that they have on their own; other keys than texts become texts.
-/

namespace Criteria.Json

/-- On one line, or one item per line with so many spaces per level. -/
inductive Style where
  | compact
  | indented (spaces : Nat)
  deriving Repr, DecidableEq

namespace Style

def line (style : Style) (level : Nat) : List Char :=
  match style with
  | compact => []
  | indented spaces => '\n' :: List.replicate (spaces * level) ' '

def between (style : Style) (level : Nat) : List Char :=
  match style with
  | compact => [',', ' ']
  | indented _ => ',' :: style.line level

end Style

def hex4 (n : Nat) : List Char :=
  [Nat.digitChar (n / 4096 % 16), Nat.digitChar (n / 256 % 16), Nat.digitChar (n / 16 % 16),
    Nat.digitChar (n % 16)]

def escapeUnit (n : Nat) : List Char :=
  '\\' :: 'u' :: hex4 n

def escapeChar (c : Char) : List Char :=
  if c = '"' ∨ c = '\\' then ['\\', c]
  else if c = '\n' then ['\\', 'n']
  else if c = '\r' then ['\\', 'r']
  else if c = '\t' then ['\\', 't']
  else if c = '\x0c' then ['\\', 'f']
  else if c = '\x08' then ['\\', 'b']
  else if 0x20 ≤ c.toNat ∧ c.toNat ≤ 0x7E then [c]
  else if c.toNat < 0x10000 then escapeUnit c.toNat
  else
    let n := c.toNat - 0x10000
    escapeUnit (0xD800 + n / 1024) ++ escapeUnit (0xDC00 + n % 1024)

def string (s : String) : List Char :=
  '"' :: s.toList.flatMap escapeChar ++ ['"']

def numberLayout : Decimal.Layout :=
  { Decimal.standardLayout with nan := "NaN", infinity := "Infinity" }

def number (x : Binary64) : String :=
  numberLayout.write x

def key : Data → Except Fault String
  | .text s => .ok s
  | .float x => .ok (number x)
  | .bool b => .ok (if b then "true" else "false")
  | .null => .ok "null"
  | .int n => wholeText n
  | _ => .error .wrongKind

def enclose (style : Style) (level : Nat) (left right : Char) (items : List (List Char)) :
    List Char :=
  if items.isEmpty then [left, right]
  else
    left :: style.line (level + 1) ++
      (items.intersperse (style.between (level + 1))).flatten ++ style.line level ++ [right]

mutual

def value (style : Style) (level : Nat) : Data → Except Fault (List Char)
  | .null => .ok ['n', 'u', 'l', 'l']
  | .bool b => .ok (if b then ['t', 'r', 'u', 'e'] else ['f', 'a', 'l', 's', 'e'])
  | .int n => do return (← wholeText n).toList
  | .float x => .ok (number x).toList
  | .text s => .ok (string s)
  | .list xs => do return enclose style level '[' ']' (← values style (level + 1) xs)
  | .tuple xs => do return enclose style level '[' ']' (← values style (level + 1) xs)
  | .record es => do return enclose style level '\x7b' '\x7d' (← entries style (level + 1) es)
  | d => do return string (← d.toText)

def values (style : Style) (level : Nat) : List Data → Except Fault (List (List Char))
  | [] => .ok []
  | x :: xs => do return (← value style level x) :: (← values style level xs)

def entries (style : Style) (level : Nat) : List (Data × Data) → Except Fault (List (List Char))
  | [] => .ok []
  | (k, v) :: es => do
    let k ← key k
    let v ← value style level v
    return (string k ++ ':' :: ' ' :: v) :: (← entries style level es)

end

def write (style : Style) (d : Data) : Except Fault String := do
  return String.ofList (← value style 0 d)

end Criteria.Json
