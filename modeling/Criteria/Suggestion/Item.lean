import Criteria.Data

/-!
# Suggested items

What is offered for the next choice. An item that stands for an operator carries the form
of the operator's values.
-/

namespace Criteria

/-- How many values an operator takes. A truth value counts as 0 or 1. -/
inductive Count where
  | number (n : Int)
  | flag (b : Bool)
  deriving Repr, DecidableEq

def Count.toInt : Count → Int
  | number n => n
  | flag b => if b then 1 else 0

def Count.toData : Count → Data
  | number n => .int n
  | flag b => .bool b

/-- The form of several values: how many (-1 for one or more), what stands between them
and what each one is called. -/
structure MultiValue where
  count : Count
  separator : Data := .text ","
  labels : List Data := []
  deriving Repr

inductive ItemKind where
  | field
  | operator
  | value
  | connector
  deriving Repr, DecidableEq

def ItemKind.name : ItemKind → String
  | field => "field"
  | operator => "operator"
  | value => "value"
  | connector => "connector"

structure Item where
  kind : ItemKind
  key : Data
  label : Data
  description : Data := .null
  disabled : Bool := false
  group : Data := .null
  form : Option MultiValue := none
  deriving Repr

end Criteria
