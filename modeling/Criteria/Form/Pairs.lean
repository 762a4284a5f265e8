import Criteria.Form.Percent

/-!
# Form data

Pairs of a name and a value, joined by `&`, with `=` between the two. Reading skips empty
pieces and takes a piece without `=` for a name with an empty value.
-/

namespace Criteria.Form

abbrev Pair := String × String

def splitAt (separator : Char) : List Char → List (List Char)
  | [] => [[]]
  | c :: rest =>
    if c = separator then [] :: splitAt separator rest
    else match splitAt separator rest with
      | piece :: pieces => (c :: piece) :: pieces
      | [] => [[c]]

def writePair (p : Pair) : List Char :=
  encode p.1.toList ++ '=' :: encode p.2.toList

def writeChars (pairs : List Pair) : List Char :=
  ((pairs.map writePair).intersperse ['&']).flatten

def write (pairs : List Pair) : String :=
  String.ofList (writeChars pairs)

def readPair (piece : List Char) : Pair :=
  let name := piece.takeWhile (· != '=')
  let value := (piece.dropWhile (· != '=')).drop 1
  (String.ofList (decode name), String.ofList (decode value))

def readChars (cs : List Char) : List Pair :=
  ((splitAt '&' cs).filter (!·.isEmpty)).map readPair

def read (s : String) : List Pair :=
  readChars s.toList

end Criteria.Form
