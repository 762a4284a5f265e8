import Criteria.Expression

/-!
# States of the filter machine

A filter is built one token at a time: field, operator, value, connector. Each step of
that grammar has a state that holds just what is known in it. The field and the operator
of a state are missing only after the state was cleared.

`State.violation?` states the invariant of the machine: every expression but the last has
a connector, and the last one has the pending connector while the next expression is
being built and none otherwise.
-/

namespace Criteria

inductive Step where
  | idle
  | selectingField
  | selectingOperator
  | enteringValue
  | selectingConnector
  /-- A step for hosts that revise a token in place; the machine never enters it. -/
  | editingToken
  deriving Repr, DecidableEq

namespace Step

def all : List Step :=
  [idle, selectingField, selectingOperator, enteringValue, selectingConnector, editingToken]

def name : Step → String
  | idle => "idle"
  | selectingField => "selecting-field"
  | selectingOperator => "selecting-operator"
  | enteringValue => "entering-value"
  | selectingConnector => "selecting-connector"
  | editingToken => "editing-token"

def ofName? (name : String) : Option Step :=
  all.find? (·.name == name)

def isBuilding : Step → Bool
  | selectingField | selectingOperator | enteringValue => true
  | _ => false

end Step

inductive State where
  | idle (expressions : Filter)
  | selectingField (expressions : Filter) (pending : Option Connector)
  | selectingOperator (expressions : Filter) (pending : Option Connector)
      (field : Option FieldRef)
  | enteringValue (expressions : Filter) (pending : Option Connector)
      (field : Option FieldRef) (operator : Option OperatorRef)
  | selectingConnector (expressions : Filter)
  deriving Repr, Inhabited

inductive Violation where
  | pendingAlone (step : Step) (connector : Connector)
  | gap (step : Step) (index : Nat)
  | mismatch (step : Step) (found expected : Option Connector)
  | unlinked (step : Step) (count : Nat)
  deriving Repr, DecidableEq

namespace Violation

def connectorText (c : Option Connector) : String :=
  match c with
  | some c => Text.quoted c
  | none => "None"

def message : Violation → String
  | pendingAlone step c =>
    s!"{step.name}: pending connector {Text.quoted c} with no expressions"
  | gap step i => s!"{step.name}: expression {i} has no connector but is not last"
  | mismatch step found expected =>
    s!"{step.name}: last expression has connector {connectorText found}, " ++
      s!"expected {connectorText expected}"
  | unlinked step n =>
    s!"{step.name}: building after {n} expression(s) without a connector"

end Violation

namespace State

def step : State → Step
  | idle .. => .idle
  | selectingField .. => .selectingField
  | selectingOperator .. => .selectingOperator
  | enteringValue .. => .enteringValue
  | selectingConnector .. => .selectingConnector

def expressions : State → Filter
  | idle es | selectingField es _ | selectingOperator es _ _ | enteringValue es _ _ _
  | selectingConnector es => es

/-- The connector chosen before the expression that is being built. -/
def pending? : State → Option Connector
  | selectingField _ p | selectingOperator _ p _ | enteringValue _ p _ _ => p
  | idle _ | selectingConnector _ => none

def field? : State → Option FieldRef
  | selectingOperator _ _ f | enteringValue _ _ f _ => f
  | _ => none

def operator? : State → Option OperatorRef
  | enteringValue _ _ _ o => o
  | _ => none

/-- The filter as seen from outside: a pending connector does not show. -/
def filter (s : State) : Filter :=
  s.expressions.withLast none

/-- The same step with other expressions; a pending connector is the last one's. -/
def withExpressions (es : Filter) : State → State
  | idle _ => idle es
  | selectingField _ _ => selectingField es es.lastConnector?
  | selectingOperator _ _ f => selectingOperator es es.lastConnector? f
  | enteringValue _ _ f o => enteringValue es es.lastConnector? f o
  | selectingConnector _ => selectingConnector es

def cleared : State → State
  | idle _ => idle []
  | selectingField .. => selectingField [] none
  | selectingOperator .. => selectingOperator [] none none
  | enteringValue .. => enteringValue [] none none none
  | selectingConnector _ => selectingConnector []

def firstGap? (index : Nat) : Filter → Option Nat
  | [] | [_] => none
  | e :: rest => if e.connector.isNone then some index else firstGap? (index + 1) rest

def violation? (s : State) : Option Violation :=
  match s.expressions.getLast? with
  | none => s.pending?.map (.pendingAlone s.step)
  | some last =>
    match firstGap? 0 s.expressions with
    | some i => some (.gap s.step i)
    | none =>
      if last.connector ≠ s.pending? then some (.mismatch s.step last.connector s.pending?)
      else if s.step.isBuilding && s.pending?.isNone then
        some (.unlinked s.step s.expressions.length)
      else none

end State

end Criteria
