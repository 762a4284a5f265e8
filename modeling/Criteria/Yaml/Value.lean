import Criteria.Data.Compare
import Criteria.Yaml.Node
import Criteria.Yaml.Scalar

/-!
# Values of nodes

A node stands for a value. Merged entries come before those of the mapping itself, and of
entries with like keys the last counts. Of several failures the one nearest to the root
is reported, and of those the first.
-/

namespace Criteria.Yaml

/-- A value, or a failure so many levels further in. -/
abbrev Leveled (α : Type) := Except (Nat × Failure) α

namespace Leveled

def here {α : Type} : Result α → Leveled α
  | .ok a => .ok a
  | .error f => .error (0, f)

def deeper {α : Type} : Leveled α → Leveled α
  | .ok a => .ok a
  | .error (level, f) => .error (level + 1, f)

def both {α β γ : Type} (f : α → β → γ) : Leveled α → Leveled β → Leveled γ
  | .ok a, .ok b => .ok (f a b)
  | .error e, .ok _ => .error e
  | .ok _, .error e => .error e
  | .error e, .error e' => .error (if e'.1 < e.1 then e' else e)

def all {α : Type} (xs : List (Leveled α)) : Leveled (List α) :=
  xs.foldr (both List.cons) (.ok [])

end Leveled

namespace Node

mutual

/-- The text that a node has as a scalar. A mapping has the text of its value entry. -/
def scalarText? : Node → Option String
  | .scalar _ text => some text
  | .mapping _ entries => entryText? entries
  | .sequence .. => none

def entryText? : List (Node × Node) → Option String
  | [] => none
  | (k, v) :: rest => if k.tag = .value then v.scalarText? else entryText? rest

end

/-- The value of a collection whose tag is one for scalars. A point in time is not read from
a collection, even where that has a text. -/
def asScalar (n : Node) : Leveled Data :=
  match n.scalarText? with
  | some text =>
    .here (if n.tag = .timestamp then .error (.fault .wrongKind) else Scalar.value n.tag text)
  | none => .here malformed

mutual

def mergesMappings : List (Node × Node) → Bool
  | [] => true
  | (k, v) :: rest => (k.tag != .merge || v.isMergeable) && mergesMappings rest

def isMergeable : Node → Bool
  | .mapping _ es => mergesMappings es
  | .sequence _ items => areMergeable items
  | .scalar .. => false

def areMergeable : List Node → Bool
  | [] => true
  | .mapping _ es :: ns => mergesMappings es && areMergeable ns
  | _ :: _ => false

end

structure Entries where
  merged : List (Leveled (Data × Data)) := []
  own : List (Leveled (Data × Data)) := []

def Entries.all (es : Entries) : List (Leveled (Data × Data)) :=
  es.merged ++ es.own

/-- What cannot be merged counts before all else that is wrong in a mapping. -/
def mergeable (es : List (Node × Node)) (d : Leveled Data) : Leveled Data :=
  if mergesMappings es then d else .here malformed

/-- The value of a key. Collections are no keys, and what has the tag of a value entry is a
text where it is a key. -/
def keyValue (key : Node) (value : Leveled Data) : Leveled Data :=
  if key.tag.isCollection then .here malformed
  else if key.tag = .value then .here (key.scalarText?.elim malformed fun s => .ok (.text s))
  else value

def pairList (ordered : List (Data × Data)) : Data :=
  .list (ordered.map fun (k, v) => .tuple [k, v])

/-- Entries by their keys, of like keys the last. -/
def recordOf (es : Entries) : Leveled (List (Data × Data)) :=
  Data.recordOf <$> .all es.all

def setOf (entries : List (Data × Data)) : Data :=
  .set (entries.map (·.1))

mutual

def value : Node → Leveled Data
  | .scalar tag text =>
    if tag.isCollection then .deeper (.here malformed) else .here (Scalar.value tag text)
  | .sequence tag items =>
    match tag with
    | .sequence => .deeper (.list <$> values items)
    | .orderedMapping | .pairs => .deeper (pairList <$> singles items)
    | .mapping | .set => .deeper (.here malformed)
    | _ => asScalar (.sequence tag items)
  | .mapping tag es =>
    match tag with
    | .mapping => .deeper (mergeable es (.record <$> recordOf (entries es)))
    | .set => .deeper (mergeable es (setOf <$> recordOf (entries es)))
    | .sequence | .orderedMapping | .pairs => .deeper (.here malformed)
    | _ => asScalar (.mapping tag es)

def values : List Node → Leveled (List Data)
  | [] => .ok []
  | n :: ns => .both List.cons n.value (values ns)

def singles : List Node → Leveled (List (Data × Data))
  | [] => .ok []
  | .mapping _ [(k, v)] :: ns => .both List.cons (.both Prod.mk k.value v.value) (singles ns)
  | _ :: _ => .here malformed

def entries : List (Node × Node) → Entries
  | [] => {}
  | (k, v) :: rest =>
    let es := entries rest
    if k.tag = .merge then { es with merged := merge v ++ es.merged }
    else { es with own := .both Prod.mk (keyValue k k.value) v.value :: es.own }

/-- The entries of a mapping, or of several, of which the first count most. -/
def merge : Node → List (Leveled (Data × Data))
  | .mapping _ es => (entries es).all
  | .sequence _ items => mergeAll items
  | .scalar .. => []

def mergeAll : List Node → List (Leveled (Data × Data))
  | [] => []
  | .mapping _ es :: ns => mergeAll ns ++ (entries es).all
  | _ :: ns => mergeAll ns

end

end Node

def read (text : String) : Result Data := do
  match ← Node.ofTokens (.ofText text.toList) with
  | none => return .null
  | some n =>
    match n.value with
    | .ok d => return d
    | .error (_, f) => .error f

end Criteria.Yaml
