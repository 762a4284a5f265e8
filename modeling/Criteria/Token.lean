import Criteria.Machine.State

/-!
# Display tokens

A filter and the selection in progress as one row of tokens: field, operator and value of
each expression, its connector if it has one, and at the end the field and operator that
are being chosen. A token without an owning expression is pending.
-/

namespace Criteria

inductive TokenContent where
  | field (field : FieldRef)
  | operator (operator : OperatorRef)
  | value (value : Value)
  | connector (connector : Connector)

namespace TokenContent

def kindName : TokenContent → String
  | field _ => "field"
  | operator _ => "operator"
  | value _ => "value"
  | connector _ => "connector"

end TokenContent

structure Token where
  content : TokenContent
  position : Nat
  owner : Option Nat

namespace Token

def isPending (t : Token) : Bool :=
  t.owner.isNone

def id (t : Token) : String :=
  match t.owner with
  | some i => s!"{i}-{t.content.kindName}"
  | none => s!"pending-{t.content.kindName}"

end Token

def Expression.contents (e : Expression) : List TokenContent :=
  [.field e.field, .operator e.operator, .value e.value] ++
    (e.connector.map TokenContent.connector).toList

/-- The tokens of the selection in progress; an operator counts only beside a field. -/
def pendingContents (field : Option FieldRef) (operator : Option OperatorRef) :
    List TokenContent :=
  match field with
  | none => []
  | some f => .field f :: (operator.map TokenContent.operator).toList

namespace Token

def committed (i : Nat) : Filter → List (TokenContent × Option Nat)
  | [] => []
  | e :: rest => e.contents.map (·, some i) ++ committed (i + 1) rest

def project (es : Filter) (field : Option FieldRef) (operator : Option OperatorRef) :
    List Token :=
  let slots := committed 0 es ++ (pendingContents field operator).map (·, none)
  slots.zipIdx.map fun ((content, owner), position) => ⟨content, position, owner⟩

end Token

def State.tokens (s : State) : List Token :=
  Token.project s.expressions s.field? s.operator?

/-- The symbol of an operator, if symbols are wanted and it has one, else its label. -/
def OperatorRef.shownText (symbols : Bool) (o : OperatorRef) : Except Fault String :=
  if symbols && o.symbol.isTruthy then
    match o.symbol with
    | .text s => .ok s
    | _ => .error .wrongKind
  else .ok o.label

def Token.text (symbols : Bool) (t : Token) : Except Fault String :=
  match t.content with
  | .field f => .ok f.label
  | .operator o => o.shownText symbols
  | .value v => .ok v.display
  | .connector c => .ok c

end Criteria
