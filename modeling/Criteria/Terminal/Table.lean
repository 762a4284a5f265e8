import Criteria.Terminal.Wrap

/-!
# Tables

A titled table with a heavy head. A column is as wide as its widest cell, and every cell has
a space on both sides. A row is as high as its highest cell.
-/

namespace Criteria.Terminal

structure Table where
  title : String
  heads : List String
  rows : List (List String)

/-- A line in the middle of a width; an odd space goes to its right. -/
def centered (width : Nat) (line : List Char) : List Char :=
  let excess := width - lineWidth line
  spaces (excess / 2) ++ line ++ spaces (excess - excess / 2)

def cellText (cell : String) : List Char :=
  unmarked (escape cell.toList)

/-- The characters of a horizontal rule: its left end, its line, where columns meet it, and
its right end. -/
structure Rule where
  left : Char
  line : Char
  meet : Char
  right : Char

def topRule : Rule := ⟨'┏', '━', '┳', '┓'⟩

def headRule : Rule := ⟨'┡', '━', '╇', '┩'⟩

def bottomRule : Rule := ⟨'└', '─', '┴', '┘'⟩

def Rule.draw (r : Rule) (widths : List Nat) : List Char :=
  let parts := widths.map fun w => List.replicate (w + 2) r.line
  r.left :: ((parts.intersperse [r.meet]).flatten ++ [r.right])

def barLine (bar : Char) (cells : Lines) : List Char :=
  let parts := cells.map fun line => ' ' :: line ++ [' ']
  bar :: ((parts.intersperse [bar]).flatten ++ [bar])

def rowLines (bar : Char) (widths : List Nat) (cells : List (List Char)) : Lines :=
  let columns := List.zipWith wrapped widths cells
  let height := (columns.map (·.length)).foldl max 1
  (List.range height).map fun i =>
    barLine bar (List.zipWith (fun w lines => padTo w ((lines[i]?).getD [])) widths columns)

namespace Table

def cells (t : Table) : List (List (List Char)) :=
  t.rows.map (·.map cellText)

def headCells (t : Table) : List (List Char) :=
  t.heads.map (·.toList)

def widths (t : Table) : List Nat :=
  t.cells.foldl (fun ws row => List.zipWith (fun w cell => max w (naturalWidth cell)) ws row)
    (t.headCells.map naturalWidth)

def lines (t : Table) : Lines :=
  let widths := t.widths
  let top := topRule.draw widths
  [centered (lineWidth top) t.title.toList, top] ++ rowLines '┃' widths t.headCells ++
    [headRule.draw widths] ++ t.cells.flatMap (rowLines '│' widths) ++ [bottomRule.draw widths]

def print (t : Table) : String :=
  String.ofList (t.lines.flatMap (· ++ ['\n']))

end Table

end Criteria.Terminal
