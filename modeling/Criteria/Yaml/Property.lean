import Criteria.Decimal.Numeral
import Criteria.Text.Utf8
import Criteria.Yaml.Cursor

/-!
# Names, tags and directives

The words that YAML puts before a node or a document: names of anchors, tags with their
handle, and directives.
-/

namespace Criteria.Yaml

/-- A tag as written: a handle that stands for a beginning, and the rest. -/
structure TagName where
  handle : Option String
  suffix : String
  deriving Repr, DecidableEq

inductive Directive where
  | version (major : Int)
  | handle (name start : String)
  | other
  deriving Repr, DecidableEq

def endsName (c : Option Char) : Bool :=
  endsWord c || c.any "?:,]\x7d%@`".toList.contains

def takeName (c : Cursor) : Result (String × Cursor) :=
  let (name, after) := c.takeWhile isNameChar
  if name.isEmpty || !endsName after.peek then malformed
  else .ok (String.ofList name, after)

/-! ## Tags -/

def isUriChar (c : Char) : Bool :=
  c.isAlphanum || "-;/?:@&=+$,_.!~*'()[]".toList.contains c

def takeOctets : Nat → Cursor → Result (List Nat × Cursor)
  | 0, _ => malformed
  | fuel + 1, c =>
    match c.rest with
    | '%' :: high :: low :: _ =>
      match Numeral.digitIn? 16 high, Numeral.digitIn? 16 low with
      | some h, some l => do
        let (more, c) ← takeOctets fuel (c.skip 3)
        return ((h * 16 + l) :: more, c)
      | _, _ => malformed
    | '%' :: _ => malformed
    | _ => .ok ([], c)

def takeEscapes (c : Cursor) : Result (List Char × Cursor) := do
  let (octets, c) ← takeOctets (c.rest.length + 1) c
  let text := Text.decodeOctets octets
  if Text.encodeText text = octets then return (text, c) else malformed

def takeUriFrom : Nat → Cursor → Result (List Char × Cursor)
  | 0, _ => malformed
  | fuel + 1, c =>
    let (run, c) := c.takeWhile isUriChar
    if c.peek == some '%' then do
      let (part, c) ← takeEscapes c
      let (more, c) ← takeUriFrom fuel c
      return (run ++ part ++ more, c)
    else .ok (run, c)

def takeUri (c : Cursor) : Result (String × Cursor) := do
  let (uri, after) ← takeUriFrom (c.rest.length + 1) c
  if uri.isEmpty then malformed else return (String.ofList uri, after)

/-- A handle: one exclamation mark, or two around a name that may be empty. -/
def takeHandle (c : Cursor) : Result (String × Cursor) :=
  if c.peek != some '!' then malformed
  else if c.peekAt 1 == some ' ' then .ok ("!", c.next)
  else
    let (name, after) := c.next.takeWhile isNameChar
    if after.peek == some '!' then .ok ("!" ++ String.ofList name ++ "!", after.next)
    else malformed

def hasHandle (cs : List Char) : Bool :=
  (cs.takeWhile fun ch => !endsField (some ch)).contains '!'

def takeTag (c : Cursor) : Result (TagName × Cursor) := do
  let (tag, c) ←
    if c.peekAt 1 == some '<' then do
      let (uri, c) ← takeUri (c.skip 2)
      if c.peek == some '>' then pure (⟨none, uri⟩, c.next) else malformed
    else if endsWord (c.peekAt 1) then pure (⟨none, "!"⟩, c.next)
    else do
      let (handle, c) ← if hasHandle c.next.rest then takeHandle c else pure ("!", c.next)
      let (suffix, c) ← takeUri c
      pure ((⟨some handle, suffix⟩ : TagName), c)
  if endsField c.peek then return (tag, c) else malformed

/-! ## Directives -/

def takeNumber (c : Cursor) : Result (Int × Cursor) :=
  let (digits, after) := c.takeWhile Numeral.isDigitChar
  if digits.isEmpty then malformed
  else do return (← orNumeral (Numeral.readWholeIn 10 (String.ofList digits)), after)

/-- The version that a text is written for; only its major part matters. -/
def takeVersion (c : Cursor) : Result (Directive × Cursor) := do
  let (major, c) ← takeNumber (c.skipWhile isSpace)
  if c.peek != some '.' then malformed
  else
    let (_, c) ← takeNumber c.next
    if endsField c.peek then return (.version major, c) else malformed

def takeHandleRule (c : Cursor) : Result (Directive × Cursor) := do
  let (name, c) ← takeHandle (c.skipWhile isSpace)
  if c.peek != some ' ' then malformed
  else
    let (start, c) ← takeUri (c.skipWhile isSpace)
    if endsField c.peek then return (.handle name start, c) else malformed

def takeDirective (c : Cursor) : Result (Directive × Cursor) := do
  let (name, c) := c.takeWhile isNameChar
  if name.isEmpty || !endsField c.peek then malformed
  else
    let (directive, c) ←
      if String.ofList name = "YAML" then takeVersion c
      else if String.ofList name = "TAG" then takeHandleRule c
      else pure (.other, c.skipWhile (!isBreak ·))
    return (directive, ← c.skipLineEnd)

end Criteria.Yaml
