import Criteria.Text.Alphanumeric
import Criteria.Text.Blank
import Criteria.Text.Case

/-!
# Separated values

A separator splits a text wherever it occurs, together with the blank characters around
it and without regard to case. A separator that is a word counts only between blank
characters. An empty separator splits before and after every character.
-/

namespace Criteria.Wire

open Criteria.Text

def afterIgnoringCase? : List Char → List Char → Option (List Char)
  | [], cs => some cs
  | p :: ps, c :: cs => if sameIgnoringCase p c then afterIgnoringCase? ps cs else none
  | _ :: _, [] => none

/-- The text after a separator that starts behind the first `k` characters. A word must be
followed by a blank character. -/
def afterSeparatorAt? (sep cs : List Char) (k : Nat) : Option (List Char) := do
  let rest ← afterIgnoringCase? sep (cs.drop k)
  if isWord sep && !rest.head?.any isBlank then none
  else some (rest.dropWhile isBlank)

/-- The text after a separator with its surrounding blanks, if one starts here. As many of
the blanks before it as possible belong to it. -/
def afterSeparator? (sep cs : List Char) : Option (List Char) :=
  let blanks := (cs.takeWhile isBlank).length
  let least := if isWord sep then 1 else 0
  ((List.range (blanks + 1)).reverse.filter (least ≤ ·)).findSome? (afterSeparatorAt? sep cs)

/-- The pieces of a text; `piece` holds the characters of the current piece in reverse. A
separator that takes no character is followed by a piece of at least one. -/
def splitFrom (sep piece cs : List Char) : List (List Char) :=
  match afterSeparator? sep cs with
  | some rest =>
    if _ : rest.length < cs.length then piece.reverse :: splitFrom sep [] rest
    else match cs with
      | [] => [piece.reverse, []]
      | c :: cs => piece.reverse :: splitFrom sep [c] cs
  | none =>
    match cs with
    | [] => [piece.reverse]
    | c :: cs => splitFrom sep (c :: piece) cs
termination_by cs.length

def splitPieces (sep cs : List Char) : List (List Char) :=
  splitFrom sep [] cs

/-- What stands between the values in their shown form: a word gets spaces around it. -/
def joiner (sep : List Char) : List Char :=
  if isWord sep then ' ' :: sep ++ [' '] else sep

end Criteria.Wire
