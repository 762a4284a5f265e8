import Criteria.Machine.State

/-!
# Actions and the grammar

The actions of the machine and the table of the steps in which each one is allowed. What
an action was answered with is an `Outcome`: it was applied, or it was ignored for a
reason.
-/

namespace Criteria

inductive ActionKind where
  | focus
  | blur
  | selectField
  | selectOperator
  | confirmValue
  | selectConnector
  | complete
  | deleteLast
  | clear
  | reset
  deriving Repr, DecidableEq

namespace ActionKind

def all : List ActionKind :=
  [focus, blur, selectField, selectOperator, confirmValue, selectConnector, complete,
    deleteLast, clear, reset]

def name : ActionKind → String
  | focus => "FOCUS"
  | blur => "BLUR"
  | selectField => "SELECT_FIELD"
  | selectOperator => "SELECT_OPERATOR"
  | confirmValue => "CONFIRM_VALUE"
  | selectConnector => "SELECT_CONNECTOR"
  | complete => "COMPLETE"
  | deleteLast => "DELETE_LAST"
  | clear => "CLEAR"
  | reset => "RESET"

def ofName? (name : String) : Option ActionKind :=
  all.find? (·.name == name)

end ActionKind

def Step.actions : Step → List ActionKind
  | idle => [.focus, .clear, .reset]
  | selectingField => [.selectField, .blur, .deleteLast, .clear, .reset]
  | selectingOperator => [.selectOperator, .blur, .deleteLast, .clear, .reset]
  | enteringValue => [.confirmValue, .blur, .deleteLast, .clear, .reset]
  | selectingConnector => [.selectConnector, .complete, .blur, .deleteLast, .clear, .reset]
  | editingToken => []

def Step.allows (step : Step) (kind : ActionKind) : Bool :=
  step.actions.contains kind

/-- An action with its payload. A connector is whatever the host hands over. -/
inductive Action where
  | focus
  | blur
  | selectField (field : Option FieldRef)
  | selectOperator (operator : Option OperatorRef)
  | confirmValue (value : Value)
  | selectConnector (connector : Data)
  | complete
  | deleteLast
  | clear
  | reset

def Action.kind : Action → ActionKind
  | focus => .focus
  | blur => .blur
  | selectField _ => .selectField
  | selectOperator _ => .selectOperator
  | confirmValue _ => .confirmValue
  | selectConnector _ => .selectConnector
  | complete => .complete
  | deleteLast => .deleteLast
  | clear => .clear
  | reset => .reset

inductive Refusal where
  | notAllowed (kind : ActionKind) (step : Step)
  | noField
  | noFieldAndOperator
  | nothingToConnect
  | nothingToDelete
  | invalidConnector (shown : String)

def Refusal.message : Refusal → String
  | notAllowed kind step => s!"{kind.name} is not valid while {step.name}"
  | noField => "no field selected"
  | noFieldAndOperator => "no field and operator selected"
  | nothingToConnect => "no expression to connect"
  | nothingToDelete => "nothing to delete"
  | invalidConnector shown => s!"invalid connector {shown}"

inductive Outcome where
  | applied (kind : ActionKind) (step : Step)
  | ignored (kind : ActionKind) (step : Step) (reason : Refusal)

def Outcome.isApplied : Outcome → Bool
  | applied .. => true
  | ignored .. => false

end Criteria
