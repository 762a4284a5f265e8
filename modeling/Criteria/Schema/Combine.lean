import Criteria.Schema

/-!
# Schemas from schemas

Merging keeps the first field under each key and takes connectors and limit from the last
schema; hooks of the whole list are not merged. Picking and omitting keep everything but
the fields that were not asked for.
-/

namespace Criteria.Schema

def firstByKey (seen : List String) : List Field → List Field
  | [] => []
  | f :: rest =>
    if seen.contains f.key then firstByKey seen rest
    else f :: firstByKey (f.key :: seen) rest

def merge (schemas : List Schema) : Schema :=
  let fields := firstByKey [] (schemas.flatMap (·.fields))
  match schemas.getLast? with
  | none => { fields }
  | some last => { fields, connectors := last.connectors, maxExpressions := last.maxExpressions }

def pick (s : Schema) (keys : List String) : Schema :=
  { s with fields := s.fields.filter fun f => keys.contains f.key }

def omitting (s : Schema) (keys : List String) : Schema :=
  { s with fields := s.fields.filter fun f => !keys.contains f.key }

def extend (s : Schema) (fields : List Field) : Schema :=
  { s with fields := s.fields ++ fields }

end Criteria.Schema
