import Criteria.Data
import Criteria.Fault

/-!
# The text of a value

`shown` is the form that a value has inside a list or a message, where texts are quoted;
`toText` is the form of a value on its own. Both fail only for whole numbers that are too
long to be written.
-/

namespace Criteria

def wholeText (n : Int) : Except Fault String :=
  match Numeral.writeWhole? n with
  | some s => .ok s
  | none => .error .digitLimit

def Moment.shownOffset (offset : Int) : String :=
  if offset = 0 then "datetime.timezone.utc" else s!"datetime.timezone({spanText offset})"

def Moment.shown (m : Moment) : String :=
  let clock := if m.micro ≠ 0 then [m.second, m.micro] else if m.second ≠ 0 then [m.second] else []
  let parts := [m.date.year, m.date.month, m.date.day, m.hour, m.minute] ++ clock
  let zone := match m.offset with
    | some offset => ["tzinfo=" ++ shownOffset offset]
    | none => []
  let listed := ", ".intercalate (parts.map toString ++ zone)
  s!"datetime.datetime({listed})"

namespace Data

def enclose (left right : String) (parts : List String) : String :=
  left ++ ", ".intercalate parts ++ right

mutual

def shown : Data → Except Fault String
  | null => .ok "None"
  | bool b => .ok (if b then "True" else "False")
  | int n => wholeText n
  | float x => .ok (Decimal.standardLayout.write x)
  | text s => .ok (Text.quoted s)
  | octets os => .ok (Text.quotedOctets os)
  | list xs => do return enclose "[" "]" (← shownAll xs)
  | tuple xs => do
    match ← shownAll xs with
    | [single] => return s!"({single},)"
    | parts => return enclose "(" ")" parts
  | set [] => .ok "set()"
  | set xs => do return enclose "\x7b" "\x7d" (← shownAll xs)
  | record es => do return enclose "\x7b" "\x7d" (← shownEntries es)
  | date d => .ok s!"datetime.date({d.year}, {d.month}, {d.day})"
  | moment m => .ok m.shown

def shownAll : List Data → Except Fault (List String)
  | [] => .ok []
  | x :: xs => do return (← x.shown) :: (← shownAll xs)

def shownEntries : List (Data × Data) → Except Fault (List String)
  | [] => .ok []
  | (k, v) :: es => do return ((← k.shown) ++ ": " ++ (← v.shown)) :: (← shownEntries es)

end

def toText : Data → Except Fault String
  | text s => .ok s
  | date d => .ok d.iso
  | moment m => .ok m.text
  | d => d.shown

end Data

end Criteria
