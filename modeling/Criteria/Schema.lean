import Criteria.Expression
import Criteria.Report
import Criteria.Suggestion.Item

/-!
# Schemas

A schema lists the fields of a filter, the operators of each field and the connectors. The
`Info` structures hold what is plain data; they are also what a hook gets to see. `Operator`,
`Field` and `Schema` add the hooks: functions that check, store, restore or suggest values.
A hook that cannot answer refuses with a message.
-/

namespace Criteria

structure OperatorInfo where
  key : String
  label : String
  symbol : Data := .null
  /-- The type of the values, where it differs from the field's. -/
  valueType : Data := .null
  /-- Whether a value must be given; the field decides if this is open. -/
  valueRequired : Option Bool := none
  multiValue : Option MultiValue := none
  deriving Repr

structure FieldInfo where
  key : String
  label : String
  type : String := "string"
  description : Data := .null
  defaultOperator : Data := .null
  group : Data := .null
  allowMultiple : Bool := true
  valueRequired : Bool := true
  deriving Repr

structure ConnectorChoice where
  key : Connector
  label : String
  deriving Repr, DecidableEq

def ConnectorChoice.defaults : List ConnectorChoice :=
  Connector.all.map fun c => ⟨c, c⟩

structure SchemaInfo where
  fields : List FieldInfo
  connectors : List ConnectorChoice
  maxExpressions : Option Int
  deriving Repr

structure CheckContext where
  field : FieldInfo
  operator : OperatorInfo
  expressions : Filter
  schema : SchemaInfo

structure ValueQuery where
  input : String
  field : Option FieldRef := none
  operator : Option OperatorRef := none
  expressions : Filter := []
  schema : SchemaInfo

structure Answer where
  items : List Item
  cancels : Bool := false

inductive Provider where
  /-- Fixed keys with their labels. -/
  | choices (entries : List (Data × Data))
  /-- A source that computes its answer, after the other queries had so many turns. -/
  | computed (name : String) (turns : Nat) (answer : ValueQuery → Except Fault Answer)

namespace Provider

/-- Keys with their labels; of like keys the last label counts. -/
def ofEntries (entries : List (Data × Data)) : Provider :=
  .choices (Data.recordOf entries)

def ofValues (values : List Data) : Except Fault Provider := do
  let texts ← values.mapM Data.toText
  return ofEntries (texts.map fun s => (.text s, .text s))

end Provider

inductive Restored where
  | value (v : Value)
  | other (d : Data)

inductive Batch where
  | data (d : Data)
  | items (items : List (Expression ⊕ Data))

structure Operator extends OperatorInfo where
  /-- Whether this is the standard operator with its key. A field's list may hold one
  standard operator at several places. -/
  standard : Bool := false
  provider : Option Provider := none
  check : Option (Value → CheckContext → Report) := none

structure Field extends FieldInfo where
  operators : List Operator := []
  provider : Option Provider := none
  check : Option (Value → CheckContext → Report) := none
  store : Option (Value → Except String Data) := none
  restore : Option (Data → Except String Restored) := none

structure Schema where
  fields : List Field := []
  connectors : List ConnectorChoice := ConnectorChoice.defaults
  maxExpressions : Option Int := none
  check : Option (Filter → Report) := none
  store : Option (Filter → Except String Data) := none
  restore : Option (Data → Except String Batch) := none

namespace Operator

def ref (op : Operator) : OperatorRef where
  key := op.key
  label := op.label
  symbol := op.symbol

def isSameStandard (a b : Operator) : Bool :=
  a.standard && b.standard && a.key == b.key

end Operator

namespace Field

def ref (f : Field) : FieldRef where
  key := f.key
  label := f.label
  type := f.type

def operator? (f : Field) (key : String) : Option Operator :=
  f.operators.find? (·.key == key)

/-- The place of the operator that is used when none was chosen: the default one if it is
set and known, else the first. -/
def defaultIndex? (f : Field) : Option Nat :=
  let named := match f.defaultOperator with
    | .text key => f.operators.findIdx? (·.key == key)
    | _ => none
  match named with
  | some i => some i
  | none => if f.operators.isEmpty then none else some 0

def default? (f : Field) : Option Operator :=
  f.defaultIndex?.bind (f.operators[·]?)

def valueTypeFor (f : Field) (op : Operator) : Data :=
  if op.valueType.isTruthy then op.valueType else .text f.type

def requiresValue (f : Field) (op : Operator) : Bool :=
  op.valueRequired.getD f.valueRequired

/-- The source of values for an operator; the operator's own goes first. -/
def providerFor (f : Field) (op : Option Operator) : Option Provider :=
  (op.bind (·.provider)).or f.provider

end Field

namespace Schema

def field? (s : Schema) (key : String) : Option Field :=
  s.fields.find? (·.key == key)

def fieldKeys (s : Schema) : List String :=
  s.fields.map (·.key)

def info (s : Schema) : SchemaInfo where
  fields := s.fields.map (·.toFieldInfo)
  connectors := s.connectors
  maxExpressions := s.maxExpressions

end Schema

end Criteria
