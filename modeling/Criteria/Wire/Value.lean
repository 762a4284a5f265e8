import Criteria.Expression
import Criteria.Form.Pairs
import Criteria.Suggestion.Item
import Criteria.Wire.Separator

/-!
# Values in stored form

A stored value becomes a value again without the help of a hook. A single value is kept as
it was stored. For an operator that takes several values, a stored list or a stored text
gives the list of the values, each converted to the type of the operator if it can be.
-/

namespace Criteria

namespace Data

mutual

/-- The text of a stored value: nothing for null, items of a list joined by commas. -/
def wireText : Data → Except Fault String
  | null => .ok ""
  | bool b => .ok (if b then "true" else "false")
  | list xs | tuple xs => do return ",".intercalate (← wireTexts xs)
  | d => d.toText

def wireTexts : List Data → Except Fault (List String)
  | [] => .ok []
  | x :: xs => do return (← x.wireText) :: (← wireTexts xs)

end

end Data

namespace Wire

open Criteria.Text

def withoutBrackets (cs : List Char) : List Char :=
  match cs, cs.getLast? with
  | '(' :: rest@(_ :: _), some ')' => rest.dropLast
  | '[' :: rest@(_ :: _), some ']' => rest.dropLast
  | cs, _ => cs

/-- The parts of a text of several values. If the separator does not occur, commas count. -/
def splitValues (sep text : List Char) : List (List Char) :=
  let body := withoutBrackets (strip text)
  if isAllBlank body then []
  else
    let parts := splitPieces sep body
    let parts := if parts.length = 1 ∧ sep ≠ [','] then Form.splitAt ',' body else parts
    parts.map strip

def numberOrText (s : String) : Data :=
  match Numeral.readWhole s with
  | .ok n => .int n
  | .error _ =>
    match Numeral.readNumber s with
    | .ok x => .float x
    | .error _ => .text s

def flagOrText (s : String) : Data :=
  let small := lowered s
  if small = "true" then .bool true else if small = "false" then .bool false else .text s

def coerce (valueType : Data) (part : Data) : Data :=
  match part, valueType with
  | .text s, .text "number" => numberOrText s
  | .text s, .text "boolean" => flagOrText s
  | part, _ => part

def plainValue (d : Data) : Except Fault Value := do
  let text ← d.wireText
  return ⟨d, text, text⟩

def parts? (sep : List Char) : Data → Option (List Data)
  | .list xs | .tuple xs => some xs
  | .text s => some ((splitValues sep s.toList).map fun cs => .text (String.ofList cs))
  | _ => none

def listValue (sep : List Char) (valueType stored : Data) (parts : List Data) :
    Except Fault Value := do
  let raw := parts.map (coerce valueType)
  let texts ← Data.wireTexts raw
  let wire ← stored.wireText
  return ⟨.list raw, (String.ofList (joiner sep)).intercalate texts, wire⟩

/-- The value of an operator that takes several values. Only a text can separate them. -/
def multiValue (form : MultiValue) (valueType stored : Data) : Except Fault Value :=
  match form.separator with
  | .text separator =>
    match parts? separator.toList stored with
    | some parts => listValue separator.toList valueType stored parts
    | none => plainValue stored
  | _ =>
    match stored with
    | .list _ | .tuple _ | .text _ => .error .notText
    | _ => plainValue stored

end Wire

end Criteria
