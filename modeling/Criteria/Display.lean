import Criteria.Token

/-!
# Filters as one line of text

Only labels, symbols and the shown form of values are used. Each part may be formatted in
another way, or a whole expression at once; its connector follows unless the expression is
the last.
-/

namespace Criteria

structure DisplayOptions where
  field : Option (FieldRef → String) := none
  operator : Option (OperatorRef → String) := none
  value : Option (Value → FieldRef → OperatorRef → String) := none
  connector : Option (Connector → String) := none
  expression : Option (Expression → Nat → String) := none
  symbols : Bool := false

namespace DisplayOptions

def operatorText (options : DisplayOptions) (o : OperatorRef) : Except Fault String :=
  match options.operator with
  | some format => .ok (format o)
  | none => o.shownText options.symbols

def valueText (options : DisplayOptions) (c : Condition) : String :=
  match options.value with
  | some format => format c.value c.field c.operator
  | none => c.value.display

def conditionText (options : DisplayOptions) (c : Condition) : Except Fault String := do
  let field := (options.field.getD (·.label)) c.field
  let operator ← options.operatorText c.operator
  return " ".intercalate [field, operator, options.valueText c]

def expressionText (options : DisplayOptions) (e : Expression) (i : Nat) : Except Fault String :=
  match options.expression with
  | some format => .ok (format e i)
  | none => options.conditionText e.condition

def partsFrom (options : DisplayOptions) (i : Nat) : Filter → Except Fault (List String)
  | [] => .ok []
  | e :: rest => do
    let text ← options.expressionText e i
    let part := match e.connector, rest with
      | some c, _ :: _ => text ++ " " ++ (options.connector.getD fun c => c) c
      | _, _ => text
    return part :: (← options.partsFrom (i + 1) rest)

end DisplayOptions

def Filter.display (es : Filter) (options : DisplayOptions := {}) : Except Fault String := do
  return " ".intercalate (← options.partsFrom 0 es)

end Criteria
