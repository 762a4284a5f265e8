import Criteria.Yaml.Tag
import Criteria.Yaml.Token

/-!
# Nodes of a YAML document

`Node.ofTokens` reads the one document of a text. Every node has a tag; an alias is
replaced by the node that it names. Inside that node itself, an alias stands for an empty
collection of its kind.
-/

namespace Criteria.Yaml

inductive Node where
  | scalar (tag : Tag) (text : String)
  | sequence (tag : Tag) (items : List Node)
  | mapping (tag : Tag) (entries : List (Node × Node))
  deriving Repr

namespace Node

def tag : Node → Tag
  | scalar t _ | sequence t _ | mapping t _ => t

def empty : Node :=
  .scalar .null ""

abbrev Handles := List (String × String)

def defaultHandles : Handles :=
  [("!", "!"), ("!!", Tag.start)]

/-- The tokens that are left, and the nodes that have a name so far. -/
structure Reader extends TokenRun where
  handles : Handles := defaultHandles
  anchors : List (String × Node) := []

/-- The tag and the name in front of a node. A tag is `none` where the content decides. -/
structure Properties where
  anchor : Option String := none
  tag : Option String := none

namespace Reader

def peek (r : Reader) : Option Token :=
  r.tokens.head?

/-- No node can be read here: the text itself goes wrong here, or the next token does not
fit. -/
def reject {α : Type} (r : Reader) : Result α :=
  match r.peek, r.failure with
  | none, some f => .error f
  | _, _ => malformed

def drop (r : Reader) : Reader :=
  { r with tokens := r.tokens.tail }

def sees (r : Reader) (ts : List Token) : Bool :=
  r.peek.any ts.contains

def takeAnchor (r : Reader) : Option String × Reader :=
  match r.peek with
  | some (.anchor name) => (some name, r.drop)
  | _ => (none, r)

def resolve? (r : Reader) (t : TagName) : Option String :=
  match t.handle with
  | none => some t.suffix
  | some handle => (r.handles.lookup handle).map (· ++ t.suffix)

def takeTag (r : Reader) : Option TagName × Reader :=
  match r.peek with
  | some (.tag t) => (some t, r.drop)
  | _ => (none, r)

/-- A name and a tag, in either order. After a tag that comes first the next token is read
before the tag is resolved. -/
def takeProperties (r : Reader) : Result (Properties × Reader) := do
  let (before, r) := r.takeAnchor
  let (written, r) := r.takeTag
  let tag := written.bind r.resolve?
  if written.isSome && tag.isNone then
    if before.isSome then malformed else r.reject
  else
    let (after, r) := if before.isNone && tag.isSome then r.takeAnchor else (none, r)
    let anchor := before.or after
    if anchor.any fun name => r.anchors.any (·.1 == name) then r.reject
    else return ({ anchor, tag }, r)

def name (r : Reader) (anchor : Option String) (n : Node) : Reader :=
  match anchor with
  | some a => { r with anchors := (a, n) :: r.anchors }
  | none => r

end Reader

def Properties.tagOr (p : Properties) (default : Tag) : Tag :=
  match p.tag with
  | none | some "!" => default
  | some uri => .ofUri uri

/-- A scalar with its properties. A plain one gets its tag from its text, and so does any
that is marked by a lone exclamation mark. -/
def Properties.scalar (p : Properties) (text : String) (plain : Bool) : Node :=
  let default := if plain || p.tag.isSome then Tag.ofPlain text else .text
  .scalar (p.tagOr default) text

mutual

/-- A node; `block` collections occur outside brackets only, and the value of a key may be
a list of entries that is not indented. -/
def read (block bare : Bool) : Nat → Reader → Result (Node × Reader)
  | 0, _ => malformed
  | fuel + 1, r =>
    match r.peek with
    | some (.alias name) =>
      match r.anchors.lookup name with
      | some n => .ok (n, r.drop)
      | none => malformed
    | _ => do
      let (p, r) ← r.takeProperties
      let sequenceTag := p.tagOr .sequence
      let mappingTag := p.tagOr .mapping
      let inSequence := r.drop.name p.anchor (.sequence sequenceTag [])
      let inMapping := r.drop.name p.anchor (.mapping mappingTag [])
      let named (n : Node) (r : Reader) := (n, r.name p.anchor n)
      match r.peek with
      | some (.scalar text plain) =>
        return named (p.scalar text plain) r.drop
      | some .flowSequence =>
        let (items, r) ← readFlowItems true fuel inSequence
        return named (.sequence sequenceTag items) r
      | some .flowMapping =>
        let (entries, r) ← readFlowEntries true fuel inMapping
        return named (.mapping mappingTag entries) r
      | t =>
        if bare && t == some .entry then
          let (items, r) ← readBareItems fuel (r.name p.anchor (.sequence sequenceTag []))
          return named (.sequence sequenceTag items) r
        else if block && t == some .blockSequence then
          let (items, r) ← readItems fuel inSequence
          return named (.sequence sequenceTag items) r
        else if block && t == some .blockMapping then
          let (entries, r) ← readEntries fuel inMapping
          return named (.mapping mappingTag entries) r
        else if p.anchor.isSome || p.tag.isSome then
          return named (.scalar (p.tagOr .null) "") r
        else r.reject

/-- The value after a mark, empty if one of `ends` follows it. -/
def readAfter (block bare : Bool) (ends : List Token) : Nat → Reader → Result (Node × Reader)
  | 0, _ => malformed
  | fuel + 1, r => if r.sees ends then .ok (empty, r) else read block bare fuel r

def readItems : Nat → Reader → Result (List Node × Reader)
  | 0, _ => malformed
  | fuel + 1, r =>
    match r.peek with
    | some .entry => do
      let (n, r) ← readAfter true false [.entry, .blockEnd] fuel r.drop
      let (more, r) ← readItems fuel r
      return (n :: more, r)
    | some .blockEnd => .ok ([], r.drop)
    | _ => r.reject

/-- The entries of a sequence that is not indented. -/
def readBareItems : Nat → Reader → Result (List Node × Reader)
  | 0, _ => malformed
  | fuel + 1, r =>
    match r.peek with
    | some .entry => do
      let (n, r) ← readAfter true false [.entry, .key, .value, .blockEnd] fuel r.drop
      let (more, r) ← readBareItems fuel r
      return (n :: more, r)
    | _ => .ok ([], r)

def readValue (block bare : Bool) (ends : List Token) : Nat → Reader → Result (Node × Reader)
  | 0, _ => malformed
  | fuel + 1, r =>
    if r.sees [.value] then readAfter block bare ends fuel r.drop else .ok (empty, r)

def readEntries : Nat → Reader → Result (List (Node × Node) × Reader)
  | 0, _ => malformed
  | fuel + 1, r =>
    match r.peek with
    | some .key => do
      let (key, r) ← readAfter true true [.key, .value, .blockEnd] fuel r.drop
      let (value, r) ← readValue true true [.key, .value, .blockEnd] fuel r
      let (more, r) ← readEntries fuel r
      return ((key, value) :: more, r)
    | some .blockEnd => .ok ([], r.drop)
    | _ => r.reject

/-- The items between brackets. A key with its value is a mapping of one entry. -/
def readFlowItems (first : Bool) : Nat → Reader → Result (List Node × Reader)
  | 0, _ => malformed
  | fuel + 1, r =>
    if r.sees [.flowSequenceEnd] then .ok ([], r.drop)
    else if !first && !r.sees [.comma] then r.reject
    else
      let r := if first then r else r.drop
      match r.peek with
      | some .flowSequenceEnd => .ok ([], r.drop)
      | some .key => do
        let (key, r) ← readAfter false false [.value, .comma, .flowSequenceEnd] fuel r.drop
        let (value, r) ← readValue false false [.comma, .flowSequenceEnd] fuel r
        let (more, r) ← readFlowItems false fuel r
        return (.mapping .mapping [(key, value)] :: more, r)
      | _ => do
        let (n, r) ← read false false fuel r
        let (more, r) ← readFlowItems false fuel r
        return (n :: more, r)

/-- The entries between braces. A node without a mark is a key without a value. -/
def readFlowEntries (first : Bool) : Nat → Reader → Result (List (Node × Node) × Reader)
  | 0, _ => malformed
  | fuel + 1, r =>
    if r.sees [.flowMappingEnd] then .ok ([], r.drop)
    else if !first && !r.sees [.comma] then r.reject
    else
      let r := if first then r else r.drop
      match r.peek with
      | some .flowMappingEnd => .ok ([], r.drop)
      | some .key => do
        let (key, r) ← readAfter false false [.value, .comma, .flowMappingEnd] fuel r.drop
        let (value, r) ← readValue false false [.comma, .flowMappingEnd] fuel r
        let (more, r) ← readFlowEntries false fuel r
        return ((key, value) :: more, r)
      | _ => do
        let (key, r) ← read false false fuel r
        let (more, r) ← readFlowEntries false fuel r
        return ((key, empty) :: more, r)

end

/-! ## Documents -/

structure Header where
  version : Option Int := none
  handles : Handles := []

/-- The directives before a document: one version at most, and every handle once. -/
def readDirectives (h : Header) : List Token → Result (Header × List Token)
  | .directive (.version major) :: rest =>
    if h.version.isSome || major != 1 then malformed
    else readDirectives { h with version := some major } rest
  | .directive (.handle name start) :: rest =>
    if h.handles.any (·.1 == name) then malformed
    else readDirectives { h with handles := (name, start) :: h.handles } rest
  | .directive .other :: rest => readDirectives h rest
  | rest => .ok (h, rest)

def readDocument (r : Reader) : Result (Node × Reader) :=
  read true false (4 * r.tokens.length + 4) r

def readMarked (h : Header) (r : Reader) : Result (Node × Reader) :=
  let r := { r with handles := h.handles ++ defaultHandles }
  match r.tokens with
  | [] | .directive _ :: _ | .documentStart :: _ | .documentEnd :: _ => .ok (empty, r)
  | _ => readDocument r

def Reader.isDone (r : Reader) : Bool :=
  r.tokens.isEmpty && r.failure.isNone

/-- Nothing but end marks may follow the document. -/
def finish (n : Node) (r : Reader) : Result (Option Node) := do
  let r : Reader := { r with tokens := r.tokens.dropWhile (· == .documentEnd) }
  if r.isDone then return some n
  else
    let (_, tokens) ← readDirectives {} r.tokens
    { r with tokens }.reject

def ofTokens (run : TokenRun) : Result (Option Node) := do
  let r : Reader := { run with }
  if r.isDone then return none
  else match r.tokens with
  | .directive _ :: _ | .documentStart :: _ =>
    let (h, tokens) ← readDirectives {} r.tokens
    let r := { r with tokens }
    if r.sees [.documentStart] then
      let (n, r) ← readMarked h r.drop
      finish n r
    else r.reject
  | _ =>
    let (n, r) ← readDocument r
    finish n r

end Node

end Criteria.Yaml
