import Criteria.Terminal.Markup
import Criteria.Text.Blank

/-!
# Text in a column

A text is as wide as the widest of the lines that any line separator makes of it, tabs taking
no room. Printed in a column, it has a new line at line feeds only, and tabs take their room,
so that a line may be too wide. Such a line goes on after the last word that fits.
-/

namespace Criteria.Terminal

abbrev Lines := List (List Char)

def lineWidth (line : List Char) : Nat :=
  line.foldr (fun c n => Text.charWidth c + n) 0

def widest (lines : Lines) : Nat :=
  (lines.map lineWidth).foldl max 0

def isLineSeparator (c : Char) : Bool :=
  [10, 28, 29, 30, 0x85, 0x2028, 0x2029].contains c.toNat

def separatedLines : List Char → Lines
  | [] => [[]]
  | c :: rest =>
    if isLineSeparator c then [] :: separatedLines rest
    else match separatedLines rest with
      | line :: lines => (c :: line) :: lines
      | [] => [[c]]

def naturalWidth (cs : List Char) : Nat :=
  widest (separatedLines cs)

/-! ## Words -/

/-- The words of a line, each with the blanks after it, the first with those before it as
well. A line of blanks has none. -/
def wordsOf : Nat → List Char → Lines
  | 0, _ => []
  | fuel + 1, cs =>
    let blanks := cs.takeWhile Text.isBlank
    let rest := cs.dropWhile Text.isBlank
    let word := rest.takeWhile (!Text.isBlank ·)
    let rest := rest.dropWhile (!Text.isBlank ·)
    if word.isEmpty then []
    else
      (blanks ++ word ++ rest.takeWhile Text.isBlank) ::
        wordsOf fuel (rest.dropWhile Text.isBlank)

def placeWords (width : Nat) (line : List Char) : Lines → Lines
  | [] => [line]
  | word :: rest =>
    let needed := lineWidth line + lineWidth (Text.dropBlanksEnd word)
    if line.isEmpty || needed ≤ width then placeWords width (line ++ word) rest
    else line :: placeWords width word rest

/-- Blanks at the end of a line that has more characters than a column has cells. -/
def cropBlanks (width : Nat) (line : List Char) : List Char :=
  let blanks := line.length - (Text.dropBlanksEnd line).length
  line.take (line.length - min blanks (line.length - width))

/-! ## Columns -/

def spaces (n : Nat) : List Char :=
  List.replicate n ' '

def padTo (width : Nat) (line : List Char) : List Char :=
  line ++ spaces (width - lineWidth line)

def fitting (width : Nat) : List Char → List Char
  | [] => []
  | c :: rest =>
    if Text.charWidth c ≤ width then c :: fitting (width - Text.charWidth c) rest else []

def shorten (width : Nat) (line : List Char) : List Char :=
  if lineWidth line ≤ width then line
  else padTo (width - 1) (fitting (width - 1) line) ++ ['…']

def wrapLine (width : Nat) (line : List Char) : Lines :=
  let words := wordsOf line.length line
  let lines := if words.isEmpty then [line] else placeWords width [] words
  lines.map fun line => shorten width (cropBlanks width line)

def wrapped (width : Nat) (cs : List Char) : Lines :=
  (printed cs).flatMap (wrapLine width)

end Criteria.Terminal
