import Criteria.Data.Compare
import Criteria.Fault

/-!
# Reading JSON text

A reader for JSON with the usual extensions for numbers (`NaN`, `Infinity`). A syntax
error says what was expected and where; while reading, the place is the number of
characters that are left. Of entries with the same key the last one counts.
-/

namespace Criteria.Json

inductive Reason where
  | byteOrderMark
  | value
  | propertyName
  | colon
  | comma
  | unterminated
  | controlCharacter
  | escape
  | unicodeEscape
  | extraData
  deriving Repr, DecidableEq

def Reason.message : Reason → String
  | byteOrderMark => "Unexpected UTF-8 BOM (decode using utf-8-sig)"
  | value => "Expecting value"
  | propertyName => "Expecting property name enclosed in double quotes"
  | colon => "Expecting ':' delimiter"
  | comma => "Expecting ',' delimiter"
  | unterminated => "Unterminated string starting at"
  | controlCharacter => "Invalid control character at"
  | escape => "Invalid \\escape"
  | unicodeEscape => "Invalid \\uXXXX escape"
  | extraData => "Extra data"

/-- Why reading stopped: at bad syntax with so many characters left, or at a number that is
too long. -/
inductive Stop where
  | bad (reason : Reason) (left : Nat)
  | numeral (error : Numeral.Error)

abbrev Parsed (α : Type) := α × List Char

def isSpace (c : Char) : Bool :=
  c == ' ' || c == '\t' || c == '\n' || c == '\r'

def skipSpaces (cs : List Char) : List Char :=
  cs.dropWhile isSpace

def bad {α : Type} (reason : Reason) (cs : List Char) : Except Stop α :=
  .error (.bad reason cs.length)

def hexValue? (cs : List Char) : Option Nat :=
  (cs.mapM (Numeral.digitIn? 16)).map (Numeral.valueOf 16)

def hex4? : List Char → Option (Nat × List Char)
  | a :: b :: c :: d :: e :: rest => (hexValue? [a, b, c, d]).map (·, e :: rest)
  | _ => none

def isHighSurrogate (n : Nat) : Bool :=
  0xD800 ≤ n && n ≤ 0xDBFF

def isLowSurrogate (n : Nat) : Bool :=
  0xDC00 ≤ n && n ≤ 0xDFFF

def joinSurrogates (high low : Nat) : Char :=
  Char.ofNat (0x10000 + (high - 0xD800) * 1024 + (low - 0xDC00))

/-- The character of a code unit; a lone surrogate is replaced. -/
def ofUnit (n : Nat) : Char :=
  if isHighSurrogate n || isLowSurrogate n then '\uFFFD' else Char.ofNat n

def simpleEscape? : Char → Option Char
  | '"' => some '"'
  | '\\' => some '\\'
  | '/' => some '/'
  | 'b' => some '\x08'
  | 'f' => some '\x0c'
  | 'n' => some '\n'
  | 'r' => some '\r'
  | 't' => some '\t'
  | _ => none

/-- The code unit after `\u`, joined with the low surrogate that follows a high one. -/
def unicodeEscape (cs : List Char) : Except Stop (Parsed Char) :=
  match hex4? cs with
  | none => .error (.bad .unicodeEscape (cs.length + 1))
  | some (unit, rest) =>
    match isHighSurrogate unit, rest with
    | true, '\\' :: 'u' :: second =>
      if second.length ≤ 4 then .ok (ofUnit unit, rest)
      else match hex4? second with
        | none => .error (.bad .unicodeEscape (second.length + 1))
        | some (low, after) =>
          if isLowSurrogate low then .ok (joinSurrogates unit low, after)
          else .ok (ofUnit unit, rest)
    | _, _ => .ok (ofUnit unit, rest)

/-- The rest of a string; `start` is what was left at its opening quote. -/
def stringBody (start : Nat) : Nat → List Char → Except Stop (Parsed (List Char))
  | 0, _ => .error (.bad .unterminated start)
  | fuel + 1, cs =>
    match cs with
    | [] => .error (.bad .unterminated start)
    | '"' :: rest => .ok ([], rest)
    | ['\\'] => .error (.bad .unterminated start)
    | '\\' :: 'u' :: rest => do
      let (c, rest) ← unicodeEscape rest
      let (more, rest) ← stringBody start fuel rest
      return (c :: more, rest)
    | '\\' :: e :: rest =>
      match simpleEscape? e with
      | none => bad .escape cs
      | some c => do
        let (more, rest) ← stringBody start fuel rest
        return (c :: more, rest)
    | c :: rest =>
      if c.toNat < 0x20 then bad .controlCharacter cs
      else do
        let (more, rest) ← stringBody start fuel rest
        return (c :: more, rest)

def stringAfterQuote (cs : List Char) : Except Stop (Parsed String) := do
  let (body, rest) ← stringBody (cs.length + 1) (cs.length + 1) cs
  return (String.ofList body, rest)

def takeFractionPart : List Char → List Char × List Char
  | '.' :: d :: rest =>
    if Numeral.isDigitChar d then
      ('.' :: (d :: rest).takeWhile Numeral.isDigitChar, (d :: rest).dropWhile Numeral.isDigitChar)
    else ([], '.' :: d :: rest)
  | cs => ([], cs)

def takeExponentPart (cs : List Char) : List Char × List Char :=
  match cs with
  | e :: rest =>
    if e = 'e' ∨ e = 'E' then
      let (sign, digits) := match rest with
        | '-' :: more => (['-'], more)
        | '+' :: more => (['+'], more)
        | more => ([], more)
      let run := digits.takeWhile Numeral.isDigitChar
      if run.isEmpty then ([], cs) else (e :: sign ++ run, digits.dropWhile Numeral.isDigitChar)
    else ([], cs)
  | [] => ([], [])

/-- The whole digits of a number: a zero alone or a run that does not start with zero. -/
def takeWholePart : List Char → List Char × List Char
  | '0' :: rest => (['0'], rest)
  | cs => (cs.takeWhile Numeral.isDigitChar, cs.dropWhile Numeral.isDigitChar)

def number? (cs : List Char) : Except Stop (Parsed Data) :=
  let (negative, body) := match cs with
    | '-' :: rest => (true, rest)
    | cs => (false, cs)
  let (whole, rest) := takeWholePart body
  if whole.isEmpty then bad .value cs
  else
    let (fraction, rest) := takeFractionPart rest
    let (exponent, rest) := takeExponentPart rest
    if fraction.isEmpty && exponent.isEmpty then
      if whole.length > Numeral.digitLimit then .error (.numeral (.tooLong whole.length))
      else
        let n := Numeral.valueOf 10 (whole.map fun c => c.toNat - '0'.toNat)
        .ok (.int (if negative then -(n : Int) else n), rest)
    else
      let text := (if negative then ['-'] else []) ++ whole ++ fraction ++ exponent
      match Numeral.readPlain? text with
      | some x => .ok (.float x, rest)
      | none => bad .value cs

def words : List (String × Data) :=
  [("null", .null), ("true", .bool true), ("false", .bool false), ("NaN", .float .nan),
    ("Infinity", .float (.infinity false)), ("-Infinity", .float (.infinity true))]

def word? (cs : List Char) : Option (Data × List Char) :=
  words.findSome? fun (name, d) =>
    if name.toList.isPrefixOf cs then some (d, cs.drop name.length) else none

mutual

def readValue : Nat → List Char → Except Stop (Parsed Data)
  | 0, cs => bad .value cs
  | fuel + 1, cs =>
    match cs with
    | [] => bad .value cs
    | '"' :: rest => do
      let (s, rest) ← stringAfterQuote rest
      return (.text s, rest)
    | '[' :: rest =>
      match skipSpaces rest with
      | ']' :: rest => .ok (.list [], rest)
      | rest => do
        let (items, rest) ← readItems fuel rest
        return (.list items, rest)
    | '\x7b' :: rest =>
      match skipSpaces rest with
      | '\x7d' :: rest => .ok (.record [], rest)
      | rest => do
        let (entries, rest) ← readEntries fuel rest
        return (.record (Data.recordOf entries), rest)
    | cs =>
      match word? cs with
      | some (d, rest) => .ok (d, rest)
      | none => number? cs

def readItems : Nat → List Char → Except Stop (Parsed (List Data))
  | 0, cs => bad .value cs
  | fuel + 1, cs => do
    let (item, rest) ← readValue fuel cs
    match skipSpaces rest with
    | ']' :: rest => return ([item], rest)
    | ',' :: rest =>
      let (items, rest) ← readItems fuel (skipSpaces rest)
      return (item :: items, rest)
    | rest => bad .comma rest

def readEntries : Nat → List Char → Except Stop (Parsed (List (Data × Data)))
  | 0, cs => bad .value cs
  | fuel + 1, cs =>
    match cs with
    | '"' :: rest => do
      let (key, rest) ← stringAfterQuote rest
      match skipSpaces rest with
      | ':' :: rest =>
        let (value, rest) ← readValue fuel (skipSpaces rest)
        match skipSpaces rest with
        | '\x7d' :: rest => return ([(.text key, value)], rest)
        | ',' :: rest =>
          let (entries, rest) ← readEntries fuel (skipSpaces rest)
          return ((.text key, value) :: entries, rest)
        | rest => bad .comma rest
      | rest => bad .colon rest
    | cs => bad .propertyName cs

end

def readText (cs : List Char) : Except Stop Data :=
  match cs with
  | '\uFEFF' :: _ => bad .byteOrderMark cs
  | cs => do
    let (d, rest) ← readValue (2 * cs.length + 2) (skipSpaces cs)
    match skipSpaces rest with
    | [] => return d
    | rest => bad .extraData rest

/-- A syntax error with its place, counted from 0 in `offset` and from 1 otherwise. -/
structure SyntaxError where
  reason : Reason
  line : Nat
  column : Nat
  offset : Nat
  deriving Repr, DecidableEq

def SyntaxError.message (e : SyntaxError) : String :=
  s!"{e.reason.message}: line {e.line} column {e.column} (char {e.offset})"

def SyntaxError.locate (reason : Reason) (cs : List Char) (left : Nat) : SyntaxError :=
  let before := cs.take (cs.length - left)
  { reason
    line := (before.filter (· == '\n')).length + 1
    column := (before.reverse.takeWhile (· != '\n')).length + 1
    offset := before.length }

inductive ReadError where
  | bad (error : SyntaxError)
  | fault (fault : Fault)

def read (s : String) : Except ReadError Data :=
  let cs := s.toList
  match readText cs with
  | .ok d => .ok d
  | .error (.bad reason left) => .error (.bad (.locate reason cs left))
  | .error (.numeral e) => .error (.fault (.numeral e))

end Criteria.Json
