import Criteria.Schema
import Criteria.Machine.State
import Criteria.Text.Case
import Criteria.Text.Infix

/-!
# Suggestions

What can be chosen next: fields, the operators of the chosen field, or connectors, taken
from the schema and narrowed by the text typed so far. Values come from a provider.
-/

namespace Criteria

namespace Item

def lowered : Data → Except Fault (List Char)
  | .text s => .ok (Text.lower s.toList)
  | _ => .error .notText

def mentions (item : Item) (needle : List Char) : Except Fault Bool := do
  if Text.occursIn needle (← lowered item.label) then return true
  else match item.description with
    | .null => return false
    | description => return Text.occursIn needle (← lowered description)

def needle (input : String) : List Char :=
  Text.lower (Text.strip input.toList)

/-- The items that mention what was typed; all of them if nothing was. -/
def narrow (items : List Item) (input : String) : Except Fault (List Item) :=
  let needle := needle input
  if needle.isEmpty then .ok items else items.filterM (·.mentions needle)

end Item

namespace Provider

def turns : Provider → Nat
  | choices _ => 0
  | computed _ turns _ => turns

def isDeferred (p : Provider) : Bool :=
  p.turns != 0

def choiceItems (entries : List (Data × Data)) : List Item :=
  entries.map fun (key, label) => { kind := .value, key, label }

def answer (p : Provider) (query : ValueQuery) : Except Fault Answer :=
  match p with
  | choices entries => do return { items := ← Item.narrow (choiceItems entries) query.input }
  | computed _ _ answer => answer query

end Provider

namespace Schema

/-- One item per field. A single-use field that is in use is disabled. -/
def fieldItems (s : Schema) (es : Filter) : List Item :=
  s.fields.map fun f =>
    { kind := .field
      key := .text f.key
      label := .text f.label
      description := f.description
      disabled := !f.allowMultiple && es.any (·.field.key == f.key)
      group := f.group }

end Schema

namespace Field

def isDefaultAt (f : Field) (op : Operator) (place : Nat) : Bool :=
  match f.defaultIndex? with
  | none => false
  | some i => place == i || (f.operators[i]?).any (·.isSameStandard op)

def offered (f : Field) : List Operator :=
  let (first, rest) := f.operators.zipIdx.partition fun (op, place) => f.isDefaultAt op place
  (first ++ rest).map (·.1)

def operatorItems (f : Field) : List Item :=
  f.offered.map fun op =>
    { kind := .operator
      key := .text op.key
      label := .text op.label
      description := op.symbol
      form := op.multiValue }

end Field

def ConnectorChoice.item (c : ConnectorChoice) : Item :=
  { kind := .connector, key := .text c.key, label := .text c.label }

namespace State

def choices (s : State) (schema : Schema) : List Item :=
  match s with
  | selectingField es _ => schema.fieldItems es
  | selectingOperator _ _ (some field) =>
    match schema.field? field.key with
    | some f => f.operatorItems
    | none => []
  | selectingConnector (_ :: _) => schema.connectors.map (·.item)
  | _ => []

def suggest (s : State) (schema : Schema) (input : String := "") : Except Fault (List Item) :=
  Item.narrow (s.choices schema) input

def valueQuery (s : State) (schema : Schema) (input : String := "") : ValueQuery where
  input := input
  field := s.field?
  operator := s.operator?
  expressions := s.filter
  schema := schema.info

def provider? (s : State) (schema : Schema) : Option Provider := do
  let chosen ← s.field?
  let field ← schema.field? chosen.key
  field.providerFor (s.operator?.bind fun o => field.operator? o.key)

end State

end Criteria
