/-!
# Lines

The parts of a text between line feeds, and a text whose other line ends are read as line
feeds.
-/

namespace Criteria.Text

/-- Carriage returns, alone or before a line feed, become line feeds. -/
def unifyLineEnds : List Char → List Char
  | '\r' :: '\n' :: rest => '\n' :: unifyLineEnds rest
  | '\r' :: rest => '\n' :: unifyLineEnds rest
  | c :: rest => c :: unifyLineEnds rest
  | [] => []

def linesOf (cs : List Char) : List (List Char) :=
  cs.splitOn '\n'

end Criteria.Text
