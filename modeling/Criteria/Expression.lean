import Criteria.Data.Compare
import Criteria.Data.Text

/-!
# Filter expressions

A condition is a field, an operator and a value; an expression is a condition with the
connector that joins it to the next one. A list is well linked when every expression but
the last has a connector and the last has none.
-/

namespace Criteria

structure FieldRef where
  key : String
  label : String
  type : String := "string"
  deriving Repr, Inhabited, DecidableEq

structure OperatorRef where
  key : String
  label : String
  symbol : Data := .null
  deriving Repr, Inhabited

/-- One entered value: as it is worked with, as it is shown and as it is stored. -/
structure Value where
  raw : Data
  display : String
  wire : String
  deriving Repr, Inhabited

/-- A value whose shown and stored forms are both its text. -/
def Value.of (raw : Data) : Except Fault Value := do
  let text ← raw.toText
  return ⟨raw, text, text⟩

structure Condition where
  field : FieldRef
  operator : OperatorRef
  value : Value
  deriving Repr, Inhabited

abbrev Connector := String

namespace Connector

def all : List Connector := ["AND", "OR"]

/-- The connector that joins expressions when none was chosen. -/
def implied : Connector := "AND"

def isKnown (c : Connector) : Bool :=
  all.contains c

def ofData? : Data → Option Connector
  | .text s => if isKnown s then some s else none
  | _ => none

end Connector

structure Expression where
  condition : Condition
  connector : Option Connector := none
  deriving Repr, Inhabited

namespace Expression

def field (e : Expression) : FieldRef := e.condition.field

def operator (e : Expression) : OperatorRef := e.condition.operator

def value (e : Expression) : Value := e.condition.value

def withConnector (e : Expression) (connector : Option Connector) : Expression :=
  { e with connector }

end Expression

def OperatorRef.alike (a b : OperatorRef) : Bool :=
  a.key == b.key && a.label == b.label && a.symbol.alike b.symbol

def Value.alike (a b : Value) : Bool :=
  a.raw.alike b.raw && a.display == b.display && a.wire == b.wire

def Expression.alike (a b : Expression) : Bool :=
  a.field == b.field && a.operator.alike b.operator && a.value.alike b.value &&
    a.connector == b.connector

abbrev Filter := List Expression

inductive LinkProblem where
  /-- An expression that is not the last has no connector. -/
  | gap (index : Nat)
  | dangling (index : Nat) (connector : Connector)
  deriving Repr, DecidableEq

def LinkProblem.message : LinkProblem → String
  | gap i => s!"expression {i} has no connector but is followed by another"
  | dangling i c => s!"last expression {i} has connector {Text.quoted c}"

namespace Filter

def linkProblemFrom? (index : Nat) : Filter → Option LinkProblem
  | [] => none
  | [last] => last.connector.map (.dangling index)
  | e :: rest => if e.connector.isNone then some (.gap index) else linkProblemFrom? (index + 1) rest

def linkProblem? (es : Filter) : Option LinkProblem :=
  linkProblemFrom? 0 es

def withLast (connector : Option Connector) : Filter → Filter
  | [] => []
  | [last] => [last.withConnector connector]
  | e :: rest => e :: withLast connector rest

def lastConnector? (es : Filter) : Option Connector :=
  es.getLast?.bind (·.connector)

end Filter

end Criteria
