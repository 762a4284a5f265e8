import Criteria.Validation

/-!
# Edits of committed expressions

An edit replaces one part of the expression at an index or removes the expression. Given a
schema, an edited condition must pass its check. An edit that fails reports why and leaves
the expressions as they were. What the schema found is also noted in the log.
-/

namespace Criteria

def Problem.shown (p : Problem) : Except Fault String := do
  let kind := Text.quoted p.kind.name
  let message := Text.quoted p.message
  let index ← (Data.ofOption (p.index.map .int)).shown
  let field ← (Data.ofOption (p.field.map .text)).shown
  return s!"ValidationError(type={kind}, message={message}, expression_index={index}, " ++
    s!"field={field})"

inductive Edit where
  | value (value : Value)
  | operator (operator : OperatorRef)
  | field (field : FieldRef) (operator : OperatorRef) (value : Value)
  | connector (connector : Data)
  | delete

structure EditResult where
  success : Bool
  expressions : Filter
  errors : List Problem := []

namespace Edit

def condition? (edit : Edit) (c : Condition) : Option Condition :=
  match edit with
  | .value v => some { c with value := v }
  | .operator o => some { c with operator := o }
  | .field f o v => some ⟨f, o, v⟩
  | .connector _ | .delete => none

def problem (index : Int) (message : String) (field : Option String := none) : Problem :=
  { kind := .expression, message, index := some index, field }

def failed (es : Filter) (errors : List Problem) : EditResult :=
  { success := false, expressions := es, errors }

def done (es : Filter) : EditResult :=
  { success := true, expressions := es }

def rejection (i : Nat) (problems : List Problem) : Except Fault String := do
  let listed := Data.enclose "[" "]" (← problems.mapM (·.shown))
  return s!"Rejected edit of expression {i}: {listed}"

/-- Put an expression with a new condition in place of another, if it passes the check. The
note for the log is worded even if nothing is logged. -/
def replaceAt (es : Filter) (i : Nat) (updated : Expression) (schema : Option Schema) :
    Except Fault EditResult := do
  let candidate := es.set i updated
  match schema with
  | none => return done candidate
  | some schema =>
    let report ← schema.validateExpression updated (some i) candidate
    if report.isValid then return done candidate
    else do
      let _ ← rejection i report.errors
      return failed es report.errors

/-- Change the connector after an expression that has one. -/
def connectAt (es : Filter) (i : Nat) (e : Expression) (connector : Data) :
    Except Fault EditResult :=
  match Connector.ofData? connector, e.connector with
  | none, _ => do return failed es [problem i s!"Invalid connector: {← connector.shown}"]
  | some _, none =>
    .ok <| failed es [problem i s!"Expression {i} has no connector to edit" e.field.key]
  | some c, some _ => .ok <| done (es.set i (e.withConnector c))

def outside (es : Filter) (index : Int) : Except Fault EditResult := do
  let shown ← wholeText index
  return failed es
    [problem index s!"No expression at index {shown} ({es.length} expression(s) committed)"]

/-- Apply an edit at an index. `trailing` is the connector of the last expression after a
removal. -/
def apply (edit : Edit) (es : Filter) (index : Int) (schema : Option Schema)
    (trailing : Option Connector) : Except Fault EditResult :=
  match if index < 0 then none else es[index.toNat]? with
  | none => outside es index
  | some e =>
    let i := index.toNat
    match edit with
    | .connector c => connectAt es i e c
    | .delete => .ok <| done (Filter.withLast trailing (es.eraseIdx i))
    | edit =>
      match edit.condition? e.condition with
      | some condition => replaceAt es i { e with condition } schema
      | none => .ok (done es)

end Edit

end Criteria
