import Criteria.Json.Reader
import Criteria.Schema
import Criteria.Wire.Value

/-!
# Restoring filters

Stored entries become expressions again, with fields and operators looked up in a schema.
An entry that is malformed is skipped and reported; the others are restored independently
of it and linked again, a missing connector being the implied one.
-/

namespace Criteria

structure RestoreOptions where
  fieldHooks : Bool := true
  schemaHook : Bool := true

/-- What is wrong with a stored entry. Values are given as they are shown. -/
inductive EntryError where
  | notRecord (kind : String)
  | missingText (setting : String)
  | missingValue
  | unknownField (field : String)
  | unknownOperator (operator field : String)
  | invalidConnector (shown : String)
  | notRestored (shown message : String)
  | notValue (field kind : String)
  deriving Repr, DecidableEq

def EntryError.message : EntryError → String
  | notRecord kind => s!"Expected an object, got {kind}"
  | missingText setting => s!"Missing or non-string '{setting}'"
  | missingValue => "Missing 'value'"
  | unknownField field => s!"Unknown field: {field}"
  | unknownOperator operator field => s!"Unknown operator: {operator} for field {field}"
  | invalidConnector shown => s!"Invalid connector: {shown}"
  | notRestored shown message => s!"Could not deserialize value {shown}: {message}"
  | notValue field kind =>
    s!"Deserialize hook for field {field} returned {kind}, not a ConditionValue"

inductive RestoreCause where
  | entry (error : EntryError)
  | noOperators (field : String)
  | notExpression (kind : String)
  | hookFailed (message : String)
  | notList (kind : String)
  | invalidJson (error : Json.SyntaxError)
  deriving Repr, DecidableEq

def RestoreCause.message : RestoreCause → String
  | entry error => error.message
  | noOperators field => s!"Field {field} has no operators"
  | notExpression kind => s!"Schema deserializer returned {kind}"
  | hookFailed message => s!"Schema deserializer failed: {message}"
  | notList kind => s!"Expected a list of expressions, got {kind}"
  | invalidJson error => s!"Invalid JSON: {error.message}"

structure RestoreError where
  index : Option Nat
  cause : RestoreCause
  field : Option String := none
  deriving Repr, DecidableEq

structure Restoration where
  expressions : Filter := []
  errors : List RestoreError := []
  /-- The places of the expressions that had no connector and got the implied one. -/
  assumed : List Nat := []

namespace Restoration

def isComplete (r : Restoration) : Bool :=
  r.errors.isEmpty

def failed (cause : RestoreCause) : Restoration :=
  { errors := [{ index := none, cause }] }

end Restoration

namespace Filter

/-- Expressions linked again: the last loses its connector, the others get the implied one
where they have none. -/
def joined : Filter → Filter
  | [] => []
  | [last] => [last.withConnector none]
  | e :: rest => e.withConnector (some (e.connector.getD Connector.implied)) :: joined rest

def gapsFrom (i : Nat) : Filter → List Nat
  | [] | [_] => []
  | e :: rest => (if e.connector.isNone then [i] else []) ++ gapsFrom (i + 1) rest

end Filter

namespace Entry

abbrev Fields := List (Data × Data)

def requiredText (entries : Fields) (setting : String) : Except EntryError String :=
  match Data.lookup setting entries with
  | some (.text s) => .ok s
  | _ => .error (.missingText setting)

def locate (schema : Schema) (entries : Fields) : Except EntryError (Field × Operator × Data) := do
  let fieldKey ← requiredText entries "field"
  let operatorKey ← requiredText entries "operator"
  match Data.lookup "value" entries, schema.field? fieldKey with
  | none, _ => .error .missingValue
  | _, none => .error (.unknownField fieldKey)
  | some stored, some field =>
    match field.operator? operatorKey with
    | none => .error (.unknownOperator operatorKey fieldKey)
    | some op => .ok (field, op, stored)

def connector (entries : Fields) : Except Fault (Except EntryError (Option Connector)) :=
  match Data.ofOption (Data.lookup "connector" entries) with
  | .null => .ok (.ok none)
  | d =>
    match Connector.ofData? d with
    | some c => .ok (.ok (some c))
    | none => do return .error (.invalidConnector (← d.shown))

def hookValue (key : String) (hook : Data → Except String Restored) (stored : Data) :
    Except Fault (Except EntryError Value) :=
  match hook stored with
  | .ok (.value v) => .ok (.ok v)
  | .ok (.other d) => .ok (.error (.notValue key d.kindName))
  | .error message => do return .error (.notRestored (← stored.shown) message)

def ownValue (field : Field) (op : Operator) (stored : Data) : Except Fault Value :=
  match op.multiValue with
  | some form => Wire.multiValue form (field.valueTypeFor op) stored
  | none => Wire.plainValue stored

def restoredValue (options : RestoreOptions) (field : Field) (op : Operator) (stored : Data) :
    Except Fault (Except EntryError Value) :=
  match if options.fieldHooks then field.restore else none with
  | some hook => hookValue field.key hook stored
  | none => .ok <$> ownValue field op stored

def restore (schema : Schema) (options : RestoreOptions) (item : Data) :
    Except Fault (Except EntryError Expression) :=
  match item with
  | .record entries =>
    match locate schema entries with
    | .error e => .ok (.error e)
    | .ok (field, op, stored) => do
      match ← connector entries with
      | .error e => return .error e
      | .ok connector =>
        match ← restoredValue options field op stored with
        | .error e => return .error e
        | .ok value => return .ok ⟨⟨field.ref, op.ref, value⟩, connector⟩
  | item => .ok (.error (.notRecord item.kindName))

def fieldKey? : Data → Option String
  | .record entries => (Data.lookup "field" entries).bind (·.text?)
  | _ => none

/-- Restore entries from place `i` on: the expressions, not linked yet, and the errors. -/
def restoreFrom (schema : Schema) (options : RestoreOptions) (i : Nat) :
    List Data → Except Fault (List Expression × List RestoreError)
  | [] => .ok ([], [])
  | item :: rest => do
    let here ← restore schema options item
    let (es, errors) ← restoreFrom schema options (i + 1) rest
    match here with
    | .ok e => return (e :: es, errors)
    | .error error =>
      return (es, { index := some i, cause := .entry error, field := fieldKey? item } :: errors)

end Entry

namespace Restoration

def ofParts (es : List Expression) (errors : List RestoreError) : Restoration where
  expressions := Filter.joined es
  errors := errors
  assumed := Filter.gapsFrom 0 es

def splitItems (i : Nat) : List (Expression ⊕ Data) → List Expression × List RestoreError
  | [] => ([], [])
  | item :: rest =>
    let (es, errors) := splitItems (i + 1) rest
    match item with
    | .inl e => (e :: es, errors)
    | .inr d => (es, { index := some i, cause := .notExpression d.kindName } :: errors)

def ofBatch : Except String Batch → Restoration
  | .error message => failed (.hookFailed message)
  | .ok (.items items) =>
    let (es, errors) := splitItems 0 items
    ofParts es errors
  | .ok (.data d) =>
    match d.elements? with
    | none => failed (.hookFailed s!"'{d.fullKindName}' object is not iterable")
    | some elements =>
      let (es, errors) := splitItems 0 (elements.map .inr)
      ofParts es errors

end Restoration

namespace Schema

def restoreFilter (s : Schema) (data : Data) (options : RestoreOptions := {}) :
    Except Fault Restoration :=
  match if options.schemaHook then s.restore else none with
  | some hook => .ok (.ofBatch (hook data))
  | none =>
    match data with
    | .list items => do
      let (es, errors) ← Entry.restoreFrom s options 0 items
      return .ofParts es errors
    | data => .ok (.failed (.notList data.kindName))

def restoreJson (s : Schema) (text : String) (options : RestoreOptions := {}) :
    Except Fault Restoration :=
  match Json.read text with
  | .ok data => s.restoreFilter data options
  | .error (.bad error) => .ok (.failed (.invalidJson error))
  | .error (.fault fault) => .error fault

end Schema

end Criteria
