import Criteria.Schema
import Criteria.Data.Compare

/-!
# Validation of expressions

An expression is checked against its field and operator, the first rule that fails being
the only one reported, and then by the hooks. A list is checked expression by expression
and then as a whole. Nothing a user enters is a fault, except that a problem cannot be
reported if its message would quote a number that is too long to be written.
-/

namespace Criteria

inductive ValueProblem where
  | missing
  | notList
  | noValues
  | wrongCount (expected : Count) (actual : Nat)
  | inverted (low high : Data)

namespace ValueProblem

def countText : Count → Except Fault String
  | .number n => wholeText n
  | .flag b => .ok (if b then "True" else "False")

def message (field operator : String) : ValueProblem → Except Fault String
  | missing => .ok s!"Value is required for field \"{field}\""
  | notList => .ok s!"Value for \"{operator}\" operator on field \"{field}\" must be a list"
  | noValues =>
    .ok s!"Operator \"{operator}\" on field \"{field}\" requires at least one value"
  | wrongCount expected actual => do
    return s!"Operator \"{operator}\" on field \"{field}\" requires exactly " ++
      s!"{← countText expected} values, but got {actual}"
  | inverted low high => do
    return s!"Range for field \"{field}\" is inverted: {← low.shown} is after {← high.shown}"

end ValueProblem

namespace Data

def isEmptyValue : Data → Bool
  | null => true
  | text s => Text.isAllBlank s.toList
  | list xs | tuple xs | set xs => xs.isEmpty
  | _ => false

/-- Whether two ends of a range are in the wrong order. Ends without a common order are
never wrong. -/
def isInverted (low high : Data) : Bool :=
  !low.isNull && !high.isNull && (low.greater? high).getD false

end Data

namespace MultiValue

def hasRangeLabels (form : MultiValue) : Bool :=
  Data.alikeAll form.labels [.text "from", .text "to"]

end MultiValue

namespace OperatorInfo

def isRange (op : OperatorInfo) : Bool :=
  op.key == "between" ||
    op.multiValue.any fun form => form.count.toInt == 2 && form.hasRangeLabels

end OperatorInfo

def rangeProblem? (op : OperatorInfo) : List Data → Option ValueProblem
  | [low, high] => if op.isRange && low.isInverted high then some (.inverted low high) else none
  | _ => none

def formProblem? (op : OperatorInfo) (form : MultiValue) (raw : Data) : Option ValueProblem :=
  match raw.sequence? with
  | none => some .notList
  | some items =>
    if form.count.toInt = -1 then
      if items.isEmpty then some .noValues else rangeProblem? op items
    else if (items.length : Int) ≠ form.count.toInt then
      some (.wrongCount form.count items.length)
    else rangeProblem? op items

def valueProblem? (field : Field) (op : Operator) (raw : Data) : Option ValueProblem :=
  let required := field.requiresValue op
  match op.multiValue with
  | some form =>
    if required || !raw.isEmptyValue then formProblem? op.toOperatorInfo form raw else none
  | none => if required && raw.isEmptyValue then some .missing else none

namespace Report

/-- The field that a finding names; an empty name is none. -/
def namedField (named : Option String) (field : String) : Option String :=
  match named with
  | some "" | none => some field
  | named => named

def ascribed (r : Report) (field : String) (index : Option Int) : Report where
  errors := r.errors.map fun p =>
    { p with field := namedField p.field field, index := p.index.or index }
  warnings := r.warnings.map fun n =>
    { n with field := namedField n.field field, index := n.index.or index }

/-- The findings of the hooks, up to the first hook that finds an error. -/
def untilError : List Report → Report
  | [] => {}
  | r :: rest => if r.isValid then r ++ untilError rest else r

end Report

namespace Schema

def checkContext (s : Schema) (field : Field) (op : Operator) (es : Filter) : CheckContext where
  field := field.toFieldInfo
  operator := op.toOperatorInfo
  expressions := es
  schema := s.info

def hookReport (s : Schema) (field : Field) (op : Operator) (e : Expression)
    (index : Option Int) (context : Filter) : Report :=
  let ctx := s.checkContext field op context
  Report.untilError <| [op.check, field.check].filterMap fun hook =>
    hook.map fun check => (check e.value ctx).ascribed e.field.key index

/-- Check one expression. `context` is the list that it belongs to. -/
def validateExpression (s : Schema) (e : Expression) (index : Option Int) (context : Filter) :
    Except Fault Report :=
  let key := e.field.key
  match s.field? key with
  | none =>
    .ok <| .ofError
      { kind := .field, message := s!"Field \"{key}\" not found in schema", index, field := key }
  | some field =>
    match field.operator? e.operator.key with
    | none =>
      .ok <| .ofError
        { kind := .operator
          message := s!"Operator \"{e.operator.key}\" is not valid for field \"{key}\""
          index, field := key }
    | some op =>
      match valueProblem? field op e.value.raw with
      | some problem => do
        let message ← problem.message key op.key
        return .ofError { kind := .value, message, index, field := key }
      | none => .ok (s.hookReport field op e index context)

/-- The connector problem at one place of a list: a missing connector where an expression
follows, or one at the end. -/
def connectorErrors (i : Nat) (e : Expression) (isLast : Bool) : List Problem :=
  match isLast, e.connector with
  | false, none =>
    [{ kind := .expression
       message := s!"Expression {i + 1} is missing a connector to the next expression"
       index := some i, field := e.field.key }]
  | true, some connector =>
    [{ kind := .expression
       message := s!"Last expression has a dangling {connector} connector"
       index := some i, field := e.field.key }]
  | _, _ => []

def signature (e : Expression) : String × String × String :=
  (e.field.key, e.operator.key, e.value.wire)

/-- A notice that an expression repeats an earlier one; `seen` holds the signatures before
it, in order. -/
def duplicateNotices (seen : List (String × String × String)) (i : Nat) (e : Expression) :
    List Notice :=
  match seen.findIdx? (· == signature e) with
  | some first =>
    [{ message := s!"Expression {i + 1} duplicates expression {first + 1}"
       index := some i, field := e.field.key }]
  | none => []

def validateAt (s : Schema) (es : Filter) (seen : List (String × String × String)) (i : Nat)
    (e : Expression) (isLast : Bool) : Except Fault Report := do
  let own ← s.validateExpression e (some i) es
  return own ++ { errors := connectorErrors i e isLast, warnings := duplicateNotices seen i e }

def validateFrom (s : Schema) (es : Filter) (seen : List (String × String × String)) (i : Nat) :
    Filter → Except Fault Report
  | [] => .ok {}
  | e :: rest => do
    let here ← s.validateAt es seen i e rest.isEmpty
    let later ← s.validateFrom es (seen ++ [signature e]) (i + 1) rest
    return here ++ later

def usage (es : Filter) (key : String) : List Nat :=
  (es.zipIdx.filter fun (e, _) => e.field.key == key).map (·.2)

/-- The problem of a single-use field that is used more than once, at its second use. -/
def singleUseErrors (es : Filter) (field : Field) : List Problem :=
  match field.allowMultiple, usage es field.key with
  | false, first :: second :: more =>
    let count := (first :: second :: more).length
    [{ kind := .field
       message := s!"Field \"{field.label}\" can only be used once, but appears {count} times"
       index := some second, field := field.key }]
  | _, _ => []

def limitErrors (s : Schema) (es : Filter) : Except Fault (List Problem) :=
  match s.maxExpressions with
  | some limit =>
    if limit < (es.length : Int) then do
      let shown ← wholeText limit
      return [{
        kind := .schema
        message := s!"Maximum of {shown} expressions allowed, but {es.length} provided" }]
    else .ok []
  | none => .ok []

def validate (s : Schema) (es : Filter) : Except Fault Report := do
  let limit ← s.limitErrors es
  let each ← s.validateFrom es [] 0 es
  let single := s.fields.flatMap (singleUseErrors es)
  let whole := match s.check with
    | some check => check es
    | none => {}
  return { errors := limit } ++ each ++ { errors := single } ++ whole

end Schema

end Criteria
