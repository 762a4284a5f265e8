import Criteria.Text.Lines
import Criteria.Text.Quoted

/-!
# Files

What reading a file may answer, and what a program finds around it: its home directory, the
variable that names a schema, its standard input and the files that it can read. `FileTree`
is a tree of files below the home directory, which is the working directory as well.
-/

namespace Criteria

inductive FileError where
  | missing
  | directory
  | notDirectory
  deriving DecidableEq, Repr

namespace FileError

def number : FileError → Nat
  | missing => 2
  | directory => 21
  | notDirectory => 20

def reason : FileError → String
  | missing => "No such file or directory"
  | directory => "Is a directory"
  | notDirectory => "Not a directory"

def message (e : FileError) (path : String) : String :=
  s!"[Errno {e.number}] {e.reason}: {Text.quoted path}"

end FileError

structure Surroundings where
  home : String
  schemaVariable : Option String := none
  input : String := ""
  read : String → Except FileError String

namespace Surroundings

def expand (s : Surroundings) (path : String) : String :=
  match path.toList with
  | '~' :: rest =>
    if rest.isEmpty || rest.head? == some '/' then
      let home := (s.home.toList.reverse.dropWhile (· == '/')).reverse
      String.ofList (home ++ rest)
    else path
  | _ => path

/-- The text of a file. Every kind of line end is read as a line feed. -/
def readText (s : Surroundings) (path : String) : Except FileError String :=
  (s.read path).map fun text => String.ofList (Text.unifyLineEnds text.toList)

end Surroundings

/-- Files by their path below the home directory; a directory has no text. -/
structure FileTree where
  home : String
  entries : List (List String × Option String)

namespace FileTree

/-- Where a path leads: to a place below the home directory, or out of it. -/
inductive Place where
  | below (path : List String)
  | outside
  deriving DecidableEq

def segments (path : String) : List String :=
  (path.toList.splitOn '/').map String.ofList

def ofNames (home : String) (files : List (String × Option String)) : FileTree :=
  ⟨home, files.map fun (name, text) => (segments name, text)⟩

def entry? (t : FileTree) : Place → Option (Option String)
  | .outside => some none
  | .below path =>
    match t.entries.lookup path with
    | some entry => some entry
    | none =>
      if path.isEmpty || t.entries.any fun e => path.isPrefixOf e.1 then some none else none

def step (t : FileTree) (place : Place) (segment : String) : Except FileError Place :=
  match t.entry? place with
  | none => .error .missing
  | some (some _) => .error .notDirectory
  | some none =>
    if segment = "" ∨ segment = "." then .ok place
    else match place with
      | .outside => if segment = ".." then .ok .outside else .error .missing
      | .below path =>
        if segment = ".." then .ok (if path.isEmpty then .outside else .below path.dropLast)
        else .ok (.below (path ++ [segment]))

def start (t : FileTree) (path : String) : Place × List String :=
  let home := segments t.home
  let all := segments path
  if home.isPrefixOf all then (.below [], all.drop home.length)
  else if path.startsWith "/" then (.outside, all)
  else (.below [], all)

def read (t : FileTree) (path : String) : Except FileError String := do
  if path = "" then throw .missing
  let (place, rest) := t.start path
  let place ← rest.foldlM t.step place
  match t.entry? place with
  | none => throw .missing
  | some none => throw .directory
  | some (some text) => return text

end FileTree

end Criteria
