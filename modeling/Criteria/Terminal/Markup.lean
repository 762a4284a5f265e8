import Criteria.Text.Lines
import Criteria.Text.Width

/-!
# Text with marks

Terminal text marks styles with words in brackets. A backslash before a mark makes it plain
text. `escape` protects the marks of a text, and `unmarked` is what a marked text shows.
-/

namespace Criteria.Terminal

def isControl (c : Char) : Bool :=
  [7, 8, 11, 12, 13].contains c.toNat

def withoutControls (s : String) : String :=
  String.ofList (s.toList.filter (!isControl ·))

def startsMark (c : Char) : Bool :=
  ('a' ≤ c && c ≤ 'z') || c == '#' || c == '/' || c == '@'

def mark? : List Char → Option (List Char × List Char)
  | '[' :: c :: rest =>
    if startsMark c then
      match rest.dropWhile fun c => c != '[' && c != ']' with
      | ']' :: after =>
        some ('[' :: c :: rest.takeWhile (fun c => c != '[' && c != ']') ++ [']'], after)
      | _ => none
    else none
  | _ => none

def isBackslash (c : Char) : Bool :=
  c == '\\'

def backslashes (n : Nat) : List Char :=
  List.replicate n '\\'

/-- A run of backslashes and a mark after it; the backslashes are doubled, with one more. -/
def escapeMarks : Nat → List Char → List Char
  | 0, cs => cs
  | fuel + 1, cs =>
    let n := (cs.takeWhile isBackslash).length
    match mark? (cs.drop n), cs.drop n with
    | some (mark, after), _ => backslashes (2 * n + 1) ++ mark ++ escapeMarks fuel after
    | none, c :: rest => backslashes n ++ c :: escapeMarks fuel rest
    | none, [] => backslashes n

/-- A text whose marks are plain. A lone backslash at the end is doubled, so that it does
not reach what follows. -/
def escape (cs : List Char) : List Char :=
  let escaped := escapeMarks (cs.length + 1) cs
  match escaped.reverse with
  | ['\\'] => escaped ++ ['\\']
  | '\\' :: c :: _ => if c = '\\' then escaped else escaped ++ ['\\']
  | _ => escaped

/-- Before a mark, a pair of backslashes shows one, and an odd one keeps the mark; before any
other bracket the last backslash is dropped. -/
def unmarkedFrom : Nat → List Char → List Char
  | 0, cs => cs
  | fuel + 1, cs =>
    let n := (cs.takeWhile isBackslash).length
    match mark? (cs.drop n), cs.drop n with
    | some (mark, after), _ =>
      backslashes (n / 2) ++ (if n % 2 = 1 then mark else []) ++ unmarkedFrom fuel after
    | none, '[' :: rest => backslashes (n - 1) ++ '[' :: unmarkedFrom fuel rest
    | none, c :: rest => backslashes n ++ c :: unmarkedFrom fuel rest
    | none, [] => backslashes n

def unmarked (cs : List Char) : List Char :=
  (unmarkedFrom (cs.length + 1) cs).filter (!isControl ·)

/-- Tabs become spaces up to the next column that is a multiple of eight, at least one. -/
def expandTabs (column : Nat) : List Char → List Char
  | [] => []
  | '\t' :: rest =>
    let next := (column / 8 + 1) * 8
    List.replicate (next - column) ' ' ++ expandTabs next rest
  | c :: rest => c :: expandTabs (column + Text.charWidth c) rest

def printed (cs : List Char) : List (List Char) :=
  (Text.linesOf cs).map (expandTabs 0)

def print (cs : List Char) : String :=
  String.ofList ((printed cs).flatMap (· ++ ['\n']))

end Criteria.Terminal
