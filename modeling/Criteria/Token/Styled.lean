import Criteria.Terminal.Markup
import Criteria.Token

/-!
# Styled token rows

Tokens become chunks of text with a style, separated by single spaces, and chunks become
one line with styled spans. Control characters that would disturb a terminal are left out
of the line.
-/

namespace Criteria

inductive ChunkStyle where
  | field
  | operator
  | value
  | connector
  | pending
  | whitespace
  deriving Repr, DecidableEq

namespace ChunkStyle

def name : ChunkStyle → String
  | field => "field"
  | operator => "operator"
  | value => "value"
  | connector => "connector"
  | pending => "pending"
  | whitespace => "whitespace"

def appearance? : ChunkStyle → Option String
  | field => some "bold #87D7FF"
  | operator => some "#AF87D7"
  | value => some "#00D7AF"
  | connector => some "bold #87AFFF"
  | pending => some "italic #808080"
  | whitespace => none

end ChunkStyle

structure Chunk where
  text : String
  style : ChunkStyle

def Token.style (t : Token) : ChunkStyle :=
  if t.isPending then .pending
  else match t.content with
    | .field _ => .field
    | .operator _ => .operator
    | .value _ => .value
    | .connector _ => .connector

def Chunk.space : Chunk := ⟨" ", .whitespace⟩

def Token.chunks (symbols : Bool) (ts : List Token) : Except Fault (List Chunk) := do
  let chunks ← ts.mapM fun t => do return Chunk.mk (← t.text symbols) t.style
  return chunks.intersperse Chunk.space

structure Span where
  start : Nat
  stop : Nat
  appearance : String
  deriving Repr, DecidableEq

structure Line where
  plain : String := ""
  spans : List Span := []

def Line.add (line : Line) (chunk : Chunk) : Line :=
  if chunk.text.isEmpty then line
  else
    let text := Terminal.withoutControls chunk.text
    let start := line.plain.length
    let spans := chunk.style.appearance?.toList.map fun look =>
      ⟨start, start + text.length, look⟩
    ⟨line.plain ++ text, line.spans ++ spans⟩

def Line.ofChunks (chunks : List Chunk) : Line :=
  chunks.foldl Line.add {}

def Token.line (symbols : Bool) (ts : List Token) : Except Fault Line :=
  Line.ofChunks <$> Token.chunks symbols ts

end Criteria
