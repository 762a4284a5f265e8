import Criteria.Schema.Standard

/-!
# Schemas from configuration data

`Schema.ofData` reads a schema from the value of a configuration file. What is wrong with
the file is a `ConfigError`, which names the offending entry. Optional settings that the
rest of the library only shows or compares are taken as they are.
-/

namespace Criteria

inductive ConfigError where
  | notRecord
  | noFields
  | fieldNotRecord (index : Nat)
  | fieldMissing (index : Nat) (setting : String)
  | unknownSettings (field : String) (settings : List String)
  | unknownType (field type : String)
  | fieldNotFlag (field setting : String)
  | noOperators (field : String)
  | unknownOperator (field operator type : String)
  | operatorForm (field : String)
  | operatorMissing (field setting : String)
  | malformedMultiValue (field operator : String)
  | operatorNotFlag (field operator : String)
  | valuesForm (field : String)
  | limitNotWhole
  | noConnectors
  | connectorForm
  | unknownConnector (connector : String)
  | invalidYaml (path : String)
  deriving Repr, DecidableEq

def ConfigError.message : ConfigError → String
  | notRecord => "Schema must be a dictionary"
  | noFields => "'fields' must be a non-empty list"
  | fieldNotRecord i => s!"Field {i} must be a dictionary"
  | fieldMissing i setting => s!"Field {i} missing required field: {setting}"
  | unknownSettings field settings =>
    s!"Field '{field}' has unknown setting(s): " ++ ", ".intercalate settings
  | unknownType field type => s!"Field '{field}' has unknown type: {type}"
  | fieldNotFlag field setting => s!"Field '{field}': '{setting}' must be true or false"
  | noOperators field => s!"Field '{field}': 'operators' must be a non-empty list"
  | unknownOperator field operator type =>
    s!"Field '{field}': unknown operator '{operator}' for type {type}"
  | operatorForm field => s!"Field '{field}': each operator must be a key or a mapping"
  | operatorMissing field setting =>
    s!"Field '{field}': operator missing required field: {setting}"
  | malformedMultiValue field operator =>
    s!"Field '{field}': operator '{operator}' has a malformed multi_value"
  | operatorNotFlag field operator =>
    s!"Field '{field}': operator '{operator}' value_required must be true or false"
  | valuesForm field => s!"Field '{field}': 'values' must be a list or mapping"
  | limitNotWhole => "'max_expressions' must be an integer"
  | noConnectors => "'connectors' must be a non-empty list"
  | connectorForm => "Each connector must be a key or a mapping"
  | unknownConnector connector => s!"Unknown connector: {connector}"
  | invalidYaml path => s!"Invalid YAML in {path}:"

inductive LoadFailure where
  | config (error : ConfigError)
  | fault (fault : Fault)
  | notFound (path : String)
  | directory (path : String)
  deriving Repr, DecidableEq

def LoadFailure.message : LoadFailure → String
  | config error => error.message
  | fault f => f.message?.getD "The schema holds a value of a wrong kind"
  | notFound path => s!"Schema file not found: {path}"
  | directory path => s!"Is a directory: {path}"

namespace Config

abbrev Entries := List (Data × Data)

abbrev Result := Except LoadFailure

def reject {α : Type} (error : ConfigError) : Result α :=
  .error (.config error)

def orFault {α : Type} : Except Fault α → Result α
  | .ok a => .ok a
  | .error f => .error (.fault f)

def fieldSettings : List String :=
  ["key", "label", "type", "operators", "default_operator", "allow_multiple",
    "value_required", "description", "group", "values"]

def optional (entries : Entries) (setting : String) : Data :=
  .ofOption (Data.lookup setting entries)

def checkSettings (field : String) (entries : Entries) : Result Unit :=
  let unknown := (entries.map (·.1)).filter fun
    | .text name => !fieldSettings.contains name
    | _ => true
  if unknown.isEmpty then .ok ()
  else match unknown.mapM (·.text?) with
    | some names => reject (.unknownSettings field (names.mergeSort fun a b => decide (a ≤ b)))
    | none => .error (.fault .wrongKind)

def requiredText (error : ConfigError) (entries : Entries) (setting : String) : Result String :=
  match Data.lookup setting entries with
  | some (.text s) => .ok s
  | _ => reject error

def flag (error : ConfigError) (default : Bool) (entries : Entries) (setting : String) :
    Result Bool :=
  match Data.lookup setting entries with
  | none => .ok default
  | some (.bool b) => .ok b
  | some _ => reject error

def count (error : ConfigError) : Option Data → Result Count
  | some (.int n) => .ok (.number n)
  | some (.bool b) => .ok (.flag b)
  | _ => reject error

/-- What the values of an operator are called. Whatever has elements can hold the labels. -/
def labels : Option Data → Result (List Data)
  | none => .ok []
  | some d =>
    match d.elements? with
    | some labels => .ok labels
    | none => .error (.fault .wrongKind)

def multiValue (error : ConfigError) : Data → Result MultiValue
  | .record entries => do
    let count ← count error (Data.lookup "count" entries)
    let labels ← labels (Data.lookup "labels" entries)
    return { count, separator := (Data.lookup "separator" entries).getD (.text ","), labels }
  | _ => reject error

def operatorForm (field key : String) : Option Data → Result (Option MultiValue)
  | none => .ok none
  | some form => some <$> multiValue (.malformedMultiValue field key) form

def operatorFlag (field key : String) : Data → Result (Option Bool)
  | .null => .ok none
  | .bool b => .ok (some b)
  | _ => reject (.operatorNotFlag field key)

def operatorOfEntries (field : String) (entries : Entries) : Result Operator := do
  let key ← requiredText (.operatorMissing field "key") entries "key"
  let label ← requiredText (.operatorMissing field "label") entries "label"
  let multiValue ← operatorForm field key (Data.lookup "multi_value" entries)
  let valueRequired ← operatorFlag field key (optional entries "value_required")
  return {
    key, label, multiValue, valueRequired
    symbol := optional entries "symbol"
    valueType := optional entries "value_type" }

def operator (field type : String) : Data → Result Operator
  | .text key =>
    match (FieldType.operators type).find? (·.key == key) with
    | some op => .ok op
    | none => reject (.unknownOperator field key type)
  | .record entries => operatorOfEntries field entries
  | _ => reject (.operatorForm field)

def operators (field type : String) : Data → Result (List Operator)
  | .null => .ok (FieldType.operators type)
  | .list (entry :: entries) => (entry :: entries).mapM (operator field type)
  | _ => reject (.noOperators field)

/-- The values that a field offers: keys with labels, or keys that are their own labels. -/
def choices (field : String) : Data → Result Provider
  | .record entries => .ok (.ofEntries entries)
  | .list items => orFault (Provider.ofValues items)
  | _ => reject (.valuesForm field)

def provider (field : String) : Option Data → Result (Option Provider)
  | none => .ok none
  | some values => some <$> choices field values

def fieldType (field : String) (entries : Entries) : Result String :=
  match Data.lookup "type" entries with
  | none => .ok "string"
  | some (.text type) =>
    if FieldType.all.contains type then .ok type else reject (.unknownType field type)
  | some d => do
    let shown ← orFault d.toText
    reject (.unknownType field shown)

def field (index : Nat) : Data → Result Field
  | .record entries => do
    let key ← requiredText (.fieldMissing index "key") entries "key"
    let label ← requiredText (.fieldMissing index "label") entries "label"
    checkSettings key entries
    let type ← fieldType key entries
    let operators ← operators key type (optional entries "operators")
    let allowMultiple ← flag (.fieldNotFlag key "allow_multiple") true entries "allow_multiple"
    let valueRequired ← flag (.fieldNotFlag key "value_required") true entries "value_required"
    let provider ← provider key (Data.lookup "values" entries)
    return {
      key, label, type, operators, allowMultiple, valueRequired, provider
      description := optional entries "description"
      defaultOperator := optional entries "default_operator"
      group := optional entries "group" }
  | _ => reject (.fieldNotRecord index)

def connectorNamed (key label : Data) : Result ConnectorChoice :=
  match Connector.ofData? key with
  | some c => do return ⟨c, ← orFault label.toText⟩
  | none => do
    let shown ← orFault key.toText
    reject (.unknownConnector shown)

def connector : Data → Result ConnectorChoice
  | .text s => connectorNamed (.text s) (.text s)
  | .record entries =>
    let key := optional entries "key"
    connectorNamed key ((Data.lookup "label" entries).getD key)
  | _ => reject .connectorForm

def connectors : Option Data → Result (List ConnectorChoice)
  | none => .ok ConnectorChoice.defaults
  | some (.list (entry :: entries)) => (entry :: entries).mapM connector
  | some _ => reject .noConnectors

def limit : Data → Result (Option Int)
  | .null => .ok none
  | .int n => .ok (some n)
  | _ => reject .limitNotWhole

def fields (start : Nat) : List Data → Result (List Field)
  | [] => .ok []
  | item :: rest => do return (← field start item) :: (← fields (start + 1) rest)

end Config

def Schema.ofData : Data → Except LoadFailure Schema
  | .record entries =>
    match Data.lookup "fields" entries with
    | some (.list (item :: items)) => do
      let fields ← Config.fields 0 (item :: items)
      let maxExpressions ← Config.limit (Config.optional entries "max_expressions")
      let connectors ← Config.connectors (Data.lookup "connectors" entries)
      return { fields, maxExpressions, connectors }
    | _ => Config.reject .noFields
  | _ => Config.reject .notRecord

end Criteria
