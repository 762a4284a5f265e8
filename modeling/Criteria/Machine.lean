import Criteria.Machine.Action
import Criteria.Machine.Edit

/-!
# The filter machine

The machine is a state and what can be done to it. An action is either applied or changes
nothing. Every new state is checked against the invariant before it is taken; `Breakdown`
is what a failed check would be answered with. Whatever is done leaves a state behind, also
where it fails, so the state comes beside the answer and not with it.
-/

namespace Criteria

inductive Breakdown where
  | violation (violation : Violation)
  | noSuccessor (kind : ActionKind) (step : Step)
  deriving Repr, DecidableEq

def Breakdown.message : Breakdown → String
  | violation v => v.message
  | noSuccessor kind step => s!"{kind.name} has no successor in {step.name}"

namespace State

inductive Failure where
  | fault (fault : Fault)
  | notLinked (problem : LinkProblem)
  | breakdown (breakdown : Breakdown)
  deriving Repr, DecidableEq

def Failure.message? : Failure → Option String
  | fault f => f.message?
  | notLinked problem => some s!"Cannot load expressions: {problem.message}"
  | breakdown b => some b.message

/-- Why an action of a kind can never apply here, if so. -/
def missing? (s : State) (kind : ActionKind) : Option Refusal :=
  if !s.step.allows kind then some (.notAllowed kind s.step)
  else match kind with
    | .selectOperator => if s.field?.isNone then some .noField else none
    | .confirmValue =>
      if s.field?.isNone || s.operator?.isNone then some .noFieldAndOperator else none
    | .selectConnector => if s.expressions.isEmpty then some .nothingToConnect else none
    | .deleteLast =>
      match s with
      | selectingField [] _ | selectingConnector [] => some .nothingToDelete
      | _ => none
    | _ => none

/-- Why an action is ignored, if so. A connector that is none is quoted. -/
def refusal? (s : State) (a : Action) : Except Fault (Option Refusal) :=
  match s.missing? a.kind, a with
  | some r, _ => .ok (some r)
  | none, .selectConnector c =>
    match Connector.ofData? c with
    | some _ => .ok none
    | none => do return some (.invalidConnector (← c.shown))
  | none, _ => .ok none

def canApply (s : State) (a : Action) : Except Fault Bool := do
  return (← s.refusal? a).isNone

def available (s : State) : List ActionKind :=
  s.step.actions.filter fun kind => (s.missing? kind).isNone

def deletedLast? : State → Option State
  | selectingConnector es =>
    es.getLast?.map fun last =>
      let remaining : Filter := es.dropLast
      enteringValue remaining remaining.lastConnector? last.field last.operator
  | enteringValue es pending field _ => some (selectingOperator es pending field)
  | selectingOperator es pending _ => some (selectingField es pending)
  | selectingField es _ => some (selectingConnector (es.withLast none))
  | idle _ => none

def next? (s : State) (a : Action) : Option State :=
  match a, s with
  | .focus, s =>
    if s.expressions.isEmpty then some (selectingField [] none)
    else
      let implied := some Connector.implied
      some (selectingField (s.expressions.withLast implied) implied)
  | .blur, s => some (idle (s.expressions.withLast none))
  | .selectField field, selectingField es pending => some (selectingOperator es pending field)
  | .selectOperator operator, selectingOperator es pending field =>
    some (enteringValue es pending field operator)
  | .confirmValue value, enteringValue es _ (some field) (some operator) =>
    some (selectingConnector (es ++ [{ condition := { field, operator, value } }]))
  | .selectConnector c, s =>
    (Connector.ofData? c).map fun c => selectingField (s.expressions.withLast (some c)) (some c)
  | .complete, s => some (idle s.expressions)
  | .deleteLast, s => s.deletedLast?
  | .clear, s => some s.cleared
  | .reset, _ => some (idle [])
  | _, _ => none

/-- Take over a new state, unless it breaks the invariant. -/
def enter {α : Type} (s next : State) (answer : α) : Except Failure α × State :=
  match next.violation? with
  | some v => (.error (.breakdown (.violation v)), s)
  | none => (.ok answer, next)

def transition (s : State) (a : Action) : Except Failure Outcome × State :=
  match s.refusal? a with
  | .error f => (.error (.fault f), s)
  | .ok (some reason) => (.ok (.ignored a.kind s.step reason), s)
  | .ok none =>
    match s.next? a with
    | some next => s.enter next (.applied a.kind next.step)
    | none => (.error (.breakdown (.noSuccessor a.kind s.step)), s)

/-- The connector that loaded expressions get at their end while the next expression is
being built. -/
def loadConnector (s : State) : Connector :=
  match s.pending? with
  | some c => if c.isEmpty then Connector.implied else c
  | none => Connector.implied

/-- Replace the committed expressions, keeping the step and what was chosen in it. -/
def load (s : State) (es : Filter) : Except Failure Unit × State :=
  match es.linkProblem? with
  | some problem => (.error (.notLinked problem), s)
  | none =>
    let es := if s.step.isBuilding then es.withLast s.loadConnector else es
    s.enter (s.withExpressions es) ()

def start (es : Filter) : Except Failure State :=
  match (idle []).load es with
  | (.ok _, s) => .ok s
  | (.error failure, _) => .error failure

def edit (s : State) (edit : Edit) (index : Int) (schema : Option Schema) :
    Except Failure EditResult × State :=
  match edit.apply s.expressions index schema s.pending? with
  | .error f => (.error (.fault f), s)
  | .ok result =>
    if result.success then s.enter (s.withExpressions result.expressions) result
    else (.ok result, s)

end State

end Criteria
