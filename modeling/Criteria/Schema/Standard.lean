import Criteria.Schema

/-!
# Field types and their standard operators

Eight field types are known. Each has a set of standard operators; custom and unknown
types share the operators of text.
-/

namespace Criteria

namespace FieldType

def all : List String :=
  ["string", "number", "date", "datetime", "boolean", "enum", "id", "custom"]

def range : MultiValue where
  count := .number 2
  separator := .text "and"
  labels := [.text "from", .text "to"]

def standard (key label : String) (symbol : Data := .null)
    (multiValue : Option MultiValue := none) : Operator :=
  { key, label, symbol, multiValue, standard := true }

def textOperators : List Operator :=
  [standard "eq" "equals" (.text "="),
    standard "neq" "not equals" (.text "≠"),
    standard "contains" "contains",
    standard "startsWith" "starts with",
    standard "endsWith" "ends with",
    standard "like" "like"]

def numberOperators : List Operator :=
  [standard "eq" "equals" (.text "="),
    standard "neq" "not equals" (.text "≠"),
    standard "gt" "greater than" (.text ">"),
    standard "gte" "greater or equal" (.text "≥"),
    standard "lt" "less than" (.text "<"),
    standard "lte" "less or equal" (.text "≤"),
    standard "between" "between" .null range]

def dateOperators : List Operator :=
  [standard "before" "before",
    standard "after" "after",
    standard "on" "on",
    standard "between" "between" .null range]

def booleanOperators : List Operator :=
  [standard "is" "is"]

def enumOperators : List Operator :=
  [standard "eq" "is" (.text "="),
    standard "neq" "is not" (.text "≠"),
    standard "in" "in" .null (some { count := .number (-1) })]

def idOperators : List Operator :=
  [standard "eq" "equals" (.text "="),
    standard "in" "in list"]

def operators : String → List Operator
  | "number" => numberOperators
  | "date" => dateOperators
  | "datetime" => dateOperators
  | "boolean" => booleanOperators
  | "enum" => enumOperators
  | "id" => idOperators
  | _ => textOperators

end FieldType

end Criteria
