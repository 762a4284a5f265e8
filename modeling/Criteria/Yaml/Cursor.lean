import Criteria.Fault

/-!
# A place in a YAML text

The text that is left at a place, with the number of characters before it and its line and
column. Line ends are line feeds or one of the three breaks of Unicode.
-/

namespace Criteria.Yaml

/-- Why a text gives no value: it is no YAML of plain data, or a scalar of it is at fault. -/
inductive Failure where
  | malformed
  | fault (fault : Fault)
  deriving Repr, DecidableEq

abbrev Result := Except Failure

def malformed {α : Type} : Result α :=
  .error .malformed

def orNumeral {α : Type} : Except Numeral.Error α → Result α
  | .ok a => .ok a
  | .error e => .error (.fault (.numeral e))

def isBreak (c : Char) : Bool :=
  c == '\n' || c == '\x85' || c == '\u2028' || c == '\u2029'

def endsLine : Option Char → Bool
  | none => true
  | some c => isBreak c

def endsField (c : Option Char) : Bool :=
  c == some ' ' || endsLine c

def endsWord (c : Option Char) : Bool :=
  c == some '\t' || endsField c

def isSpace (c : Char) : Bool :=
  c == ' '

def isBlank (c : Char) : Bool :=
  c == ' ' || c == '\t'

def isNameChar (c : Char) : Bool :=
  c.isAlphanum || c == '-' || c == '_'

structure Cursor where
  rest : List Char
  index : Nat := 0
  line : Nat := 0
  column : Nat := 0
  deriving Repr

namespace Cursor

def peek (c : Cursor) : Option Char :=
  c.rest.head?

def peekAt (c : Cursor) (n : Nat) : Option Char :=
  c.rest[n]?

/-- The place after the next character. A byte order mark takes no column. -/
def next (c : Cursor) : Cursor :=
  match c.rest with
  | [] => c
  | ch :: rest =>
    if isBreak ch then ⟨rest, c.index + 1, c.line + 1, 0⟩
    else ⟨rest, c.index + 1, c.line, if ch = '\uFEFF' then c.column else c.column + 1⟩

def skip (c : Cursor) : Nat → Cursor
  | 0 => c
  | n + 1 => c.next.skip n

def takeWhile (p : Char → Bool) (c : Cursor) : List Char × Cursor :=
  let run := c.rest.takeWhile p
  (run, c.skip run.length)

def skipWhile (p : Char → Bool) (c : Cursor) : Cursor :=
  (c.takeWhile p).2

def skipComment (c : Cursor) : Cursor :=
  if c.peek == some '#' then c.skipWhile (!isBreak ·) else c

/-- The break at the end of a line and the place after it. Breaks other than the two of
Unicode are read as line feeds. -/
def lineBreak? (c : Cursor) : Option (Char × Cursor) :=
  match c.peek with
  | some ch =>
    if ch = '\u2028' ∨ ch = '\u2029' then some (ch, c.next)
    else if isBreak ch then some ('\n', c.next)
    else none
  | none => none

def isSeparator (c : Cursor) : Bool :=
  let mark := c.rest.take 3
  (mark == ['-', '-', '-'] || mark == ['.', '.', '.']) && endsWord (c.peekAt 3)

def skipLineEnd (c : Cursor) : Result Cursor :=
  let c := (c.skipWhile isSpace).skipComment
  match c.lineBreak? with
  | some (_, c) => .ok c
  | none => if c.peek.isNone then .ok c else malformed

end Cursor

end Criteria.Yaml
