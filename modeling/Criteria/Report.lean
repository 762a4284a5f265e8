/-!
# Reports

What a check found: problems, which make its subject invalid, and notices, which do not.
Both may name an expression by its place and a field by its key.
-/

namespace Criteria

inductive ProblemKind where
  | field
  | operator
  | value
  | expression
  | schema
  /-- A kind that only a hook uses. -/
  | other (name : String)
  deriving Repr, DecidableEq

def ProblemKind.name : ProblemKind → String
  | field => "field"
  | operator => "operator"
  | value => "value"
  | expression => "expression"
  | schema => "schema"
  | other name => name

structure Problem where
  kind : ProblemKind
  message : String
  index : Option Int := none
  field : Option String := none
  deriving Repr, DecidableEq

structure Notice where
  message : String
  index : Option Int := none
  field : Option String := none
  deriving Repr, DecidableEq

structure Report where
  errors : List Problem := []
  warnings : List Notice := []
  deriving Repr, DecidableEq

namespace Report

def isValid (r : Report) : Bool :=
  r.errors.isEmpty

def append (a b : Report) : Report :=
  ⟨a.errors ++ b.errors, a.warnings ++ b.warnings⟩

instance : Append Report := ⟨append⟩

def ofError (p : Problem) : Report := { errors := [p] }

end Report

end Criteria
