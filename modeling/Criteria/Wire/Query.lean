import Criteria.Form.Pairs
import Criteria.Wire.Restore

/-!
# Filters as query strings

A query string keeps the field and the stored form of each value and nothing else. Reading
one back takes the first operator of each field and links everything with the implied
connector.
-/

namespace Criteria

namespace Filter

def queryPairs (es : Filter) : List Form.Pair :=
  es.map fun e => (e.field.key, e.value.wire)

def toQuery (es : Filter) : String :=
  Form.write es.queryPairs

end Filter

namespace Query

def restorePair (schema : Schema) (p : Form.Pair) : Except RestoreCause Expression :=
  match schema.field? p.1 with
  | none => .error (.entry (.unknownField p.1))
  | some field =>
    match field.operators with
    | [] => .error (.noOperators p.1)
    | op :: _ => .ok ⟨⟨field.ref, op.ref, ⟨.text p.2, p.2, p.2⟩⟩, some Connector.implied⟩

def restoreFrom (schema : Schema) (i : Nat) :
    List Form.Pair → List Expression × List RestoreError
  | [] => ([], [])
  | p :: rest =>
    let (es, errors) := restoreFrom schema (i + 1) rest
    match restorePair schema p with
    | .ok e => (e :: es, errors)
    | .error cause => (es, { index := some i, cause, field := p.1 } :: errors)

def body (query : String) : List Char :=
  query.toList.dropWhile (· == '?')

end Query

namespace Schema

def restoreQuery (s : Schema) (query : String) : Restoration :=
  let (es, errors) := Query.restoreFrom s 0 (Form.readChars (Query.body query))
  .ofParts es errors

end Schema

end Criteria
