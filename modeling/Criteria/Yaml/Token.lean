import Criteria.Yaml.Property
import Criteria.Yaml.ScalarText

/-!
# Tokens of a YAML text

`TokenRun.ofText` cuts a text into tokens. Indentation becomes tokens that open and close
block collections. Where a key needs no mark of its own, its token is put in front of it
once the colon after it is found; until then the scanner remembers the place. What goes
wrong in a text counts only if all tokens before it make sense.
-/

namespace Criteria.Yaml

inductive Token where
  | directive (directive : Directive)
  | documentStart
  | documentEnd
  | blockSequence
  | blockMapping
  | blockEnd
  | flowSequence
  | flowSequenceEnd
  | flowMapping
  | flowMappingEnd
  | entry
  | comma
  | key
  | value
  | alias (name : String)
  | anchor (name : String)
  | tag (name : TagName)
  | scalar (text : String) (plain : Bool)
  deriving Repr, DecidableEq

structure TokenRun where
  tokens : List Token
  failure : Option Failure := none

/-- A place where a key may have started, with the tokens before it. A key that must be
one stands at the indentation of its block. -/
structure KeyPlace where
  tokens : Nat
  required : Bool
  index : Nat
  line : Nat
  column : Nat
  deriving Repr

/-- A key ends within so many characters, on the line on which it starts. -/
def keyLimit : Nat := 1024

structure Scanner where
  cursor : Cursor
  tokens : Array Token := #[]
  /-- The column of the innermost block, `-1` outside all blocks. -/
  indent : Int := -1
  outer : List Int := []
  depth : Nat := 0
  /-- Whether a key may start here. -/
  keyAllowed : Bool := true
  keys : List (Nat × KeyPlace) := []

namespace Scanner

def push (s : Scanner) (t : Token) : Scanner :=
  { s with tokens := s.tokens.push t }

def inFlow (s : Scanner) : Bool :=
  s.depth != 0

def column (s : Scanner) : Int :=
  s.cursor.column

/-! ## Blanks between tokens -/

/-- The next place that is neither blank nor comment, and whether a line ended before it. -/
def skipBlanks : Nat → Cursor → Cursor × Bool
  | 0, c => (c, false)
  | fuel + 1, c =>
    let c := (c.skipWhile isSpace).skipComment
    match c.lineBreak? with
    | none => (c, false)
    | some (_, c) => ((skipBlanks fuel c).1, true)

def skipOrderMark (c : Cursor) : Cursor :=
  if c.index = 0 ∧ c.peek = some '\uFEFF' then c.next else c

def toToken (s : Scanner) : Scanner :=
  let c := skipOrderMark s.cursor
  let (c, lineEnded) := skipBlanks (c.rest.length + 1) c
  { s with cursor := c, keyAllowed := s.keyAllowed || (lineEnded && !s.inFlow) }

/-! ## Places of keys -/

def isStale (s : Scanner) (k : KeyPlace) : Bool :=
  k.line != s.cursor.line || s.cursor.index - k.index > keyLimit

/-- Keys that cannot be completed any more are forgotten. -/
def dropStale (s : Scanner) : Result Scanner :=
  let (stale, keys) := s.keys.partition fun (_, k) => s.isStale k
  if stale.any (·.2.required) then malformed else .ok { s with keys }

def dropKey (s : Scanner) : Result Scanner :=
  if (s.keys.lookup s.depth).any (·.required) then malformed
  else .ok { s with keys := s.keys.filter (·.1 != s.depth) }

def saveKey (s : Scanner) : Result Scanner := do
  if !s.keyAllowed then return s
  let required := !s.inFlow && s.indent == s.column
  let place : KeyPlace :=
    ⟨s.tokens.size, required, s.cursor.index, s.cursor.line, s.cursor.column⟩
  let s ← s.dropKey
  return { s with keys := (s.depth, place) :: s.keys }

/-! ## Indentation -/

/-- Blocks that are indented further than `column` end. -/
def closeTo (column indent : Int) (tokens : Array Token) : List Int → Int × List Int × Array Token
  | [] => (indent, [], tokens)
  | above :: outer =>
    if column < indent then closeTo column above (tokens.push .blockEnd) outer
    else (indent, above :: outer, tokens)

def closeBlocks (s : Scanner) (column : Int) : Scanner :=
  if s.inFlow then s
  else
    let (indent, outer, tokens) := closeTo column s.indent s.tokens s.outer
    { s with indent, outer, tokens }

/-- A block opens at `column` if that is further in; its token is the one at `place`. -/
def openBlock (s : Scanner) (column : Int) (place : Nat) (t : Token) : Scanner :=
  if s.indent < column then
    { s with
      indent := column
      outer := s.indent :: s.outer
      tokens := s.tokens.insertIdxIfInBounds place t }
  else s

/-- A mark that may open a block stands where a key may start. -/
def openBlockHere (s : Scanner) (t : Token) : Result Scanner :=
  if s.inFlow then .ok s
  else if !s.keyAllowed then malformed
  else .ok (s.openBlock s.column s.tokens.size t)

/-! ## Tokens -/

def mark (s : Scanner) (t : Token) (n : Nat) (keyAllowed : Bool) : Scanner :=
  { s.push t with cursor := s.cursor.skip n, keyAllowed }

def documentMark (s : Scanner) (t : Token) : Result Scanner := do
  return (← (s.closeBlocks (-1)).dropKey).mark t 3 false

def directive (s : Scanner) : Result Scanner := do
  let s ← (s.closeBlocks (-1)).dropKey
  let (d, cursor) ← takeDirective s.cursor.next
  return { s.push (.directive d) with cursor, keyAllowed := false }

def openBracket (s : Scanner) (t : Token) : Result Scanner := do
  let s ← s.saveKey
  return { s.mark t 1 true with depth := s.depth + 1 }

def closeBracket (s : Scanner) (t : Token) : Result Scanner := do
  if s.depth = 0 then malformed
  else
    let s ← s.dropKey
    return { s.mark t 1 false with depth := s.depth - 1 }

def comma (s : Scanner) : Result Scanner := do
  return (← s.dropKey).mark .comma 1 true

def entry (s : Scanner) : Result Scanner := do
  let s ← s.openBlockHere .blockSequence
  return (← s.dropKey).mark .entry 1 true

def key (s : Scanner) : Result Scanner := do
  let s ← s.openBlockHere .blockMapping
  return (← s.dropKey).mark .key 1 (!s.inFlow)

/-- A colon: what stands before it on its line, from the remembered place on, is its key. -/
def value (s : Scanner) : Result Scanner := do
  match s.keys.lookup s.depth with
  | some k =>
    let s : Scanner := { s with
      keys := s.keys.filter (·.1 != s.depth)
      tokens := s.tokens.insertIdxIfInBounds k.tokens .key }
    let s := if s.inFlow then s else s.openBlock k.column k.tokens .blockMapping
    return s.mark .value 1 false
  | none =>
    let s ← s.openBlockHere .blockMapping
    return (← s.dropKey).mark .value 1 (!s.inFlow)

def word (s : Scanner) (take : Cursor → Result (Token × Cursor)) : Result Scanner := do
  let s ← s.saveKey
  let (t, cursor) ← take s.cursor
  return { s.push t with cursor, keyAllowed := false }

def quotedScalar (quote : Char) (c : Cursor) : Result (Token × Cursor) := do
  let (text, c) ← quotedText quote (c.rest.length + 1) c.next
  return (.scalar (String.ofList text) false, c)

def plainScalar (s : Scanner) : Result Scanner := do
  let s ← s.saveKey
  let fuel := s.cursor.rest.length + 1
  let (text, cursor, lineEnded) :=
    plainText s.inFlow (s.indent + 1).toNat fuel false s.cursor
  return { s.push (.scalar (String.ofList text) true) with cursor, keyAllowed := lineEnded }

def blockScalar (s : Scanner) (folded : Bool) : Result Scanner := do
  let s ← s.dropKey
  let (text, cursor) ← blockText folded (s.indent + 1).toNat s.cursor.next
  return { s.push (.scalar (String.ofList text) false) with cursor, keyAllowed := true }

/-- Characters that never start a plain scalar, save a hyphen, and outside brackets a
question mark or a colon, that is followed by more. -/
def isIndicator (c : Char) : Bool :=
  "-?:,[]\x7b\x7d#&*!|>'\"%@`".toList.contains c

def startsPlain (s : Scanner) (c : Char) (after : Option Char) : Bool :=
  !(endsWord (some c) || isIndicator c) ||
    (!endsWord after && (c == '-' || (!s.inFlow && (c == '?' || c == ':'))))

def token (s : Scanner) (c : Char) : Result Scanner :=
  let after := s.cursor.peekAt 1
  let atMargin := s.cursor.column == 0
  let isMark := s.inFlow || endsWord after
  if c == '%' && atMargin then s.directive
  else if c == '-' && atMargin && s.cursor.isSeparator then s.documentMark .documentStart
  else if c == '.' && atMargin && s.cursor.isSeparator then s.documentMark .documentEnd
  else if c == '[' then s.openBracket .flowSequence
  else if c == '\x7b' then s.openBracket .flowMapping
  else if c == ']' then s.closeBracket .flowSequenceEnd
  else if c == '\x7d' then s.closeBracket .flowMappingEnd
  else if c == ',' then s.comma
  else if c == '-' && endsWord after then s.entry
  else if c == '?' && isMark then s.key
  else if c == ':' && isMark then s.value
  else if c == '*' then s.word fun c => (fun (n, c) => (.alias n, c)) <$> takeName c.next
  else if c == '&' then s.word fun c => (fun (n, c) => (.anchor n, c)) <$> takeName c.next
  else if c == '!' then s.word fun c => (fun (t, c) => (.tag t, c)) <$> takeTag c
  else if (c == '|' || c == '>') && !s.inFlow then s.blockScalar (c == '>')
  else if c == '\'' || c == '"' then s.word (quotedScalar c)
  else if s.startsPlain c after then s.plainScalar
  else malformed

def finish (s : Scanner) : Result Scanner :=
  (s.closeBlocks (-1)).dropKey

def step (s : Scanner) : Result Scanner := do
  let s ← s.toToken.dropStale
  let s := s.closeBlocks s.column
  match s.cursor.peek with
  | none => s.finish
  | some c => s.token c

/-- The tokens that no key can be put in front of any more. -/
def settled (s : Scanner) : List Token :=
  let places := (s.keys.filter fun (_, k) => !s.isStale k).map (·.2.tokens)
  s.tokens.toList.take (places.foldl min s.tokens.size)

def atEnd (s : Scanner) : Bool :=
  s.toToken.cursor.peek.isNone

def run : Nat → Scanner → TokenRun
  | 0, s => { tokens := s.settled, failure := some .malformed }
  | fuel + 1, s =>
    match s.step with
    | .error f => { tokens := s.settled, failure := some f }
    | .ok next => if s.atEnd then { tokens := next.tokens.toList } else run fuel next

end Scanner

def isAllowed (c : Char) : Bool :=
  let n := c.toNat
  n == 0x09 || n == 0x0A || n == 0x0D || (0x20 ≤ n && n ≤ 0x7E) || n == 0x85 ||
    (0xA0 ≤ n && n ≤ 0xFFFD) || 0x10000 ≤ n

def TokenRun.ofText (text : List Char) : TokenRun :=
  if text.all isAllowed then Scanner.run (text.length + 2) { cursor := { rest := text } }
  else { tokens := [], failure := some .malformed }

end Criteria.Yaml
