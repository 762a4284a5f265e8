import Criteria.Schema

/-!
# Validation of schemas

A schema is sound when every look-up by key has one answer: it has fields, their keys
differ, each field has operators with different keys, a default operator is one of them,
and a limit is positive.
-/

namespace Criteria

inductive SchemaProblem where
  | noFields
  | limitNotPositive (limit : Int)
  | duplicateField (key : String)
  | noOperators (field : String)
  | duplicateOperator (field operator : String)
  | unknownDefault (field : String) (operator : Data)

namespace SchemaProblem

def field? : SchemaProblem → Option String
  | noFields | limitNotPositive _ => none
  | duplicateField key | noOperators key | duplicateOperator key _ | unknownDefault key _ =>
    some key

def message : SchemaProblem → Except Fault String
  | noFields => .ok "Schema must have at least one field"
  | limitNotPositive limit => do
    return s!"max_expressions must be positive, got {← wholeText limit}"
  | duplicateField key => .ok s!"Duplicate field key: \"{key}\""
  | noOperators key => .ok s!"Field \"{key}\" must have at least one operator"
  | duplicateOperator key op => .ok s!"Duplicate operator \"{op}\" on field \"{key}\""
  | unknownDefault key op => do
    return s!"Default operator \"{← op.toText}\" is not an operator of field \"{key}\""

def toProblem (p : SchemaProblem) : Except Fault Problem := do
  return { kind := .schema, message := ← p.message, field := p.field? }

end SchemaProblem

namespace Schema

/-- The elements that have come up before, each time they come up again. -/
def repeats (seen : List String) : List String → List String
  | [] => []
  | key :: rest => (if seen.contains key then [key] else []) ++ repeats (key :: seen) rest

/-- The problem of a default operator that is not among the keys. A default that can never
be a key, because it may change, cannot even be looked for, save a set. -/
def defaultProblems (f : Field) : List (Except Fault SchemaProblem) :=
  match f.defaultOperator with
  | .null => []
  | .text key =>
    if f.operators.any (·.key == key) then [] else [.ok (.unknownDefault f.key (.text key))]
  | .set xs => [.ok (.unknownDefault f.key (.set xs))]
  | other => if other.isConstant then [.ok (.unknownDefault f.key other)] else [.error .wrongKind]

def operatorProblems (f : Field) : List (Except Fault SchemaProblem) :=
  if f.operators.isEmpty then [.ok (.noOperators f.key)]
  else
    (repeats [] (f.operators.map (·.key))).map (fun key => .ok (.duplicateOperator f.key key)) ++
      defaultProblems f

def fieldProblems (seen : List String) : List Field → List (Except Fault SchemaProblem)
  | [] => []
  | f :: rest =>
    (if seen.contains f.key then [.ok (.duplicateField f.key)] else []) ++ operatorProblems f ++
      fieldProblems (f.key :: seen) rest

def limitProblems (s : Schema) : List (Except Fault SchemaProblem) :=
  match s.maxExpressions with
  | some limit => if limit < 1 then [.ok (.limitNotPositive limit)] else []
  | none => []

def problems (s : Schema) : List (Except Fault SchemaProblem) :=
  if s.fields.isEmpty then [.ok .noFields]
  else s.limitProblems ++ fieldProblems [] s.fields

def selfCheck (s : Schema) : Except Fault Report := do
  let errors ← s.problems.mapM fun problem => problem >>= SchemaProblem.toProblem
  return { errors }

end Schema

end Criteria
