import Criteria.Schema.Standard

/-!
# Drafting a field

A field is drafted step by step. Choosing a type fills in its standard operators unless
some were chosen before, and so does finishing the draft.
-/

namespace Criteria

inductive OperatorChoice where
  | key (key : String)
  | operator (op : Operator)

namespace OperatorChoice

def key? : OperatorChoice → Option String
  | key k => some k
  | operator _ => none

def operator? : OperatorChoice → Option Operator
  | key _ => none
  | operator op => some op

end OperatorChoice

namespace Field

def draft (key label : String) : Field :=
  { key, label }

def filled (f : Field) : Field :=
  if f.operators.isEmpty then { f with operators := FieldType.operators f.type } else f

def withType (f : Field) (type : String) : Field :=
  filled { f with type }

/-- The operators that a list of choices selects. A list that starts with a key selects
among the standard operators and may hold keys only; any other list is taken for the
operators in it. -/
def withOperators (f : Field) (choices : List OperatorChoice) : Except Fault Field :=
  match choices with
  | .key _ :: _ =>
    match choices.mapM (·.key?) with
    | none => .error .wrongKind
    | some keys =>
      .ok { f with operators := (FieldType.operators f.type).filter (keys.contains ·.key) }
  | _ => .ok { f with operators := choices.filterMap (·.operator?) }

def withOperator (f : Field) (op : Operator) : Field :=
  { f with operators := f.operators ++ [op] }

end Field

def Schema.withField (s : Schema) (f : Field) : Schema :=
  { s with fields := s.fields ++ [f] }

end Criteria
