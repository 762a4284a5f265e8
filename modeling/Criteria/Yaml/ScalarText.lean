import Criteria.Decimal.Numeral
import Criteria.Yaml.Cursor

/-!
# The text of YAML scalars

Quoted, plain and block scalars. Between two lines of a quoted or plain scalar a single
line feed becomes a space and further breaks stay; a folded block does the same except
around lines that start with a blank.
-/

namespace Criteria.Yaml

/-- What stands between two lines: the break that ends the first and those after it. -/
def fold (lineEnd : Char) (breaks : List Char) : List Char :=
  if lineEnd ≠ '\n' then lineEnd :: breaks
  else if breaks.isEmpty then [' ']
  else breaks

/-! ## Quoted scalars -/

def simpleEscapes : List (Char × Char) :=
  [('0', '\x00'), ('a', '\x07'), ('b', '\x08'), ('t', '\t'), ('\t', '\t'), ('n', '\n'),
    ('v', '\x0b'), ('f', '\x0c'), ('r', '\r'), ('e', '\x1b'), (' ', ' '), ('"', '"'),
    ('\\', '\\'), ('/', '/'), ('N', '\x85'), ('_', '\xa0'), ('L', '\u2028'), ('P', '\u2029')]

def codeLength? : Char → Option Nat
  | 'x' => some 2
  | 'u' => some 4
  | 'U' => some 8
  | _ => none

/-- The character of a code; half a surrogate pair is replaced. -/
def ofCode (code : Nat) : Result Char :=
  if 0x110000 ≤ code then .error (.fault (.noCharacter code))
  else if 0xD800 ≤ code ∧ code < 0xE000 then .ok '\uFFFD'
  else .ok (Char.ofNat code)

/-- Line breaks with the blanks around them; no mark between documents may start a line. -/
def quotedBreaks : Nat → Cursor → Result (List Char × Cursor)
  | 0, _ => malformed
  | fuel + 1, c =>
    if c.isSeparator then malformed
    else
      let c := c.skipWhile isBlank
      match c.lineBreak? with
      | none => .ok ([], c)
      | some (lineEnd, c) => do
        let (more, c) ← quotedBreaks fuel c
        return (lineEnd :: more, c)

def escape (fuel : Nat) (c : Cursor) : Result (List Char × Cursor) :=
  match c.peek with
  | none => malformed
  | some e =>
    match simpleEscapes.lookup e, codeLength? e with
    | some ch, _ => .ok ([ch], c.next)
    | none, some n =>
      let digits := c.next.rest.take n
      match digits.mapM (Numeral.digitIn? 16) with
      | some values =>
        if values.length < n then malformed
        else do return ([← ofCode (Numeral.valueOf 16 values)], c.next.skip n)
      | none => malformed
    | none, none =>
      match c.lineBreak? with
      | some (_, c) => quotedBreaks fuel c
      | none => malformed

def quotedBlanks (fuel : Nat) (c : Cursor) : Result (List Char × Cursor) :=
  let (blanks, c) := c.takeWhile isBlank
  match c.lineBreak? with
  | some (lineEnd, c) => do
    let (breaks, c) ← quotedBreaks fuel c
    return (fold lineEnd breaks, c)
  | none => .ok (blanks, c)

def quotedText (quote : Char) : Nat → Cursor → Result (List Char × Cursor)
  | 0, _ => malformed
  | fuel + 1, c =>
    match c.peek with
    | none => malformed
    | some ch =>
      if ch = quote then
        if quote = '\'' ∧ c.peekAt 1 = some '\'' then do
          let (more, c) ← quotedText quote fuel (c.skip 2)
          return ('\'' :: more, c)
        else .ok ([], c.next)
      else if ch = '\\' ∧ quote = '"' then do
        let (part, c) ← escape fuel c.next
        let (more, c) ← quotedText quote fuel c
        return (part ++ more, c)
      else if isBlank ch || isBreak ch then do
        let (part, c) ← quotedBlanks fuel c
        let (more, c) ← quotedText quote fuel c
        return (part ++ more, c)
      else do
        let (more, c) ← quotedText quote fuel c.next
        return (ch :: more, c)

/-! ## Plain scalars -/

def isFlowMark (c : Char) : Bool :=
  ",[]\x7b\x7d".toList.contains c

def plainLength (inFlow : Bool) : List Char → Nat
  | [] => 0
  | c :: rest =>
    let endsHere := endsWord (some c) ||
      (c == ':' && (endsWord rest.head? || (inFlow && rest.head?.any isFlowMark))) ||
      (inFlow && (c == '?' || isFlowMark c))
    if endsHere then 0 else plainLength inFlow rest + 1

/-- What stands between two runs of a plain scalar, and whether it ends a line. -/
structure Gap where
  text : List Char
  cursor : Cursor
  endsLine : Bool

/-- The breaks and spaces before the next line; `none` at a mark between documents. -/
def plainBreaks : Nat → Cursor → Option (List Char) × Cursor
  | 0, c => (none, c)
  | fuel + 1, c =>
    if c.isSeparator then (none, c)
    else
      let c := c.skipWhile isSpace
      match c.lineBreak? with
      | none => (some [], c)
      | some (lineEnd, c) =>
        let (more, c) := plainBreaks fuel c
        (more.map (lineEnd :: ·), c)

def gap (fuel : Nat) (c : Cursor) : Gap :=
  let (blanks, c) := c.takeWhile isSpace
  match c.lineBreak? with
  | none => ⟨blanks, c, false⟩
  | some (lineEnd, c) =>
    match plainBreaks fuel c with
    | (some breaks, c) => ⟨fold lineEnd breaks, c, true⟩
    | (none, c) => ⟨[], c, true⟩

/-- The text of a plain scalar from here on, the place after it, and whether the gap before
that place ends a line. Outside brackets every line must be indented. -/
def plainText (inFlow : Bool) (indent : Nat) : Nat → Bool → Cursor → List Char × Cursor × Bool
  | 0, lineEnded, c => ([], c, lineEnded)
  | fuel + 1, lineEnded, c =>
    let n := if c.peek == some '#' then 0 else plainLength inFlow c.rest
    if n = 0 then ([], c, lineEnded)
    else
      let run := c.rest.take n
      let g := gap fuel (c.skip n)
      if g.text.isEmpty || (!inFlow && g.cursor.column < indent) then (run, g.cursor, g.endsLine)
      else
        match plainText inFlow indent fuel g.endsLine g.cursor with
        | ([], c, lineEnded) => (run, c, lineEnded)
        | (more, c, lineEnded) => (run ++ g.text ++ more, c, lineEnded)

/-! ## Block scalars -/

inductive Chomping where
  | strip
  | clip
  | keep
  deriving DecidableEq, Repr

def takeChomping (c : Cursor) : Option Chomping × Cursor :=
  match c.peek with
  | some '+' => (some .keep, c.next)
  | some '-' => (some .strip, c.next)
  | _ => (none, c)

/-- A digit that says how far a block is indented; zero is refused. -/
def takeIncrement (c : Cursor) : Result (Option Nat × Cursor) :=
  match c.peek.bind (Numeral.digitIn? 10) with
  | none => .ok (none, c)
  | some 0 => malformed
  | some n => .ok (some n, c.next)

def blockHeader (c : Cursor) : Result (Chomping × Option Nat × Cursor) := do
  let (first, c) := takeChomping c
  let (increment, c) ← takeIncrement c
  let (second, c) := if first.isNone && increment.isSome then takeChomping c else (none, c)
  if endsField c.peek then return ((first.or second).getD .clip, increment, c)
  else malformed

def skipIndent (indent : Nat) (c : Cursor) : Cursor :=
  c.skip (min (indent - c.column) (c.rest.takeWhile isSpace).length)

def blockBreaks (indent : Nat) : Nat → Cursor → List Char × Cursor
  | 0, c => ([], c)
  | fuel + 1, c =>
    let c := skipIndent indent c
    match c.lineBreak? with
    | none => ([], c)
    | some (lineEnd, c) =>
      let (more, c) := blockBreaks indent fuel c
      (lineEnd :: more, c)

/-- The empty lines before the text of a block, and the widest indentation among them and
the first line. -/
def findIndent : Nat → Nat → Cursor → List Char × Nat × Cursor
  | 0, widest, c => ([], widest, c)
  | fuel + 1, widest, c =>
    let c := c.skipWhile isSpace
    let widest := max widest c.column
    match c.lineBreak? with
    | none => ([], widest, c)
    | some (lineEnd, c) =>
      let (more, widest, c) := findIndent fuel widest c
      (lineEnd :: more, widest, c)

structure BlockLines where
  text : List Char
  lineEnd : List Char
  breaks : List Char
  cursor : Cursor

def atLine (indent : Nat) (c : Cursor) : Bool :=
  c.column == indent && c.peek.isSome

/-- The lines of a block; `breaks` are the empty lines before the first of them. -/
def blockLines (folded : Bool) (indent : Nat) : Nat → List Char → Cursor → BlockLines
  | 0, breaks, c => ⟨[], [], breaks, c⟩
  | fuel + 1, breaks, c =>
    if !atLine indent c then ⟨[], [], breaks, c⟩
    else
      let (line, after) := c.takeWhile (!isBreak ·)
      let (lineEnd, after) := match after.lineBreak? with
        | some (b, after) => ([b], after)
        | none => ([], after)
      let (following, after) := blockBreaks indent fuel after
      if atLine indent after then
        let folds := folded && lineEnd == ['\n'] && !c.peek.any isBlank && !after.peek.any isBlank
        let joint := if folds then (if following.isEmpty then [' '] else []) else lineEnd
        let more := blockLines folded indent fuel following after
        { more with text := breaks ++ line ++ joint ++ more.text }
      else ⟨breaks ++ line, lineEnd, following, after⟩

/-- A block scalar after its mark, inside a block of indentation `outer`. -/
def blockText (folded : Bool) (outer : Nat) (c : Cursor) : Result (List Char × Cursor) := do
  let (chomping, increment, c) ← blockHeader c
  let c ← c.skipLineEnd
  let least := max outer 1
  let fuel := c.rest.length + 1
  let (indent, breaks, c) := match increment with
    | some n =>
      let indent := least + n - 1
      let (breaks, c) := blockBreaks indent fuel c
      (indent, breaks, c)
    | none =>
      let (breaks, widest, c) := findIndent fuel 0 c
      (max least widest, breaks, c)
  let lines := blockLines folded indent fuel breaks c
  let ending := match chomping with
    | .strip => []
    | .clip => lines.lineEnd
    | .keep => lines.lineEnd ++ lines.breaks
  return (lines.text ++ ending, lines.cursor)

end Criteria.Yaml
