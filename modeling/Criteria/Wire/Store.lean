import Criteria.Json.Writer
import Criteria.Schema

/-!
# Storing filters

A filter is stored as a list of records of a field, an operator, a value and, where there
is one, a connector. Hooks may store the values of a field, or the whole filter, in another
way; a hook for the whole filter counts only if it gives a list.
-/

namespace Criteria

structure StoreOptions where
  fieldHooks : Bool := true
  schemaHook : Bool := true

def orRefused {α : Type} : Except String α → Except Fault α
  | .ok a => .ok a
  | .error message => .error (.refused message)

namespace Expression

/-- The stored value: what the field's hook makes of it, else its stored form. -/
def storedValue (e : Expression) (schema : Option Schema) (options : StoreOptions) :
    Except Fault Data :=
  match schema, options.fieldHooks with
  | some schema, true =>
    match (schema.field? e.field.key).bind (·.store) with
    | some hook => orRefused (hook e.value)
    | none => .ok (.text e.value.wire)
  | _, _ => .ok (.text e.value.wire)

def record (e : Expression) (value : Data) : Data :=
  .record <|
    [(.text "field", .text e.field.key), (.text "operator", .text e.operator.key),
      (.text "value", value)] ++
      (e.connector.map fun c => (.text "connector", .text c)).toList

end Expression

namespace Filter

def storeEach (schema : Option Schema) (options : StoreOptions) :
    Filter → Except Fault (List Data)
  | [] => .ok []
  | e :: rest => do
    let value ← e.storedValue schema options
    return e.record value :: (← storeEach schema options rest)

def store (es : Filter) (schema : Option Schema) (options : StoreOptions := {}) :
    Except Fault (List Data) :=
  let hook := if options.schemaHook then schema.bind (·.store) else none
  match hook with
  | none => es.storeEach schema options
  | some hook => do
    match ← orRefused (hook es) with
    | .list items => return items
    | _ => es.storeEach schema options

def toJson (es : Filter) (schema : Option Schema) (options : StoreOptions := {})
    (style : Json.Style := .compact) : Except Fault String := do
  Json.write style (.list (← es.store schema options))

end Filter

end Criteria
