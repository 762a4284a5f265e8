import Criteria.Command.Run

/-!
# The program

Arguments, environment and files come in, and what a run leaves behind goes out.
-/

namespace Criteria.Main

/-- The system's number for a directory where a file is wanted. -/
def directoryCode : UInt32 := 21

def readFile (path : String) : IO (Except FileError String) := do
  try
    return .ok (← IO.FS.readFile path)
  catch
    | .inappropriateType _ code _ =>
      return .error (if code = directoryCode then .directory else .notDirectory)
    | _ => return .error .missing

def surroundings (i : Invocation) : IO Surroundings := do
  let home := (← IO.getEnv "HOME").getD ""
  let schemaVariable ← IO.getEnv Command.schemaVariable
  let names : Surroundings := { home, schemaVariable, read := fun _ => .error .missing }
  let files ← (i.paths names).mapM fun path => do return (path, ← readFile path)
  let input ← if i.command.file? == some "-" then (← IO.getStdin).readToEnd else pure ""
  return { names with
    input
    read := fun path => (files.lookup path).getD (.error .missing) }

def finish (r : RunResult) : IO UInt32 := do
  IO.eprint r.errors
  IO.print r.output
  return r.exit.toUInt32

end Criteria.Main

open Criteria in
def main (args : List String) : IO UInt32 := do
  match Invocation.ofArguments args with
  | .error stop => Criteria.Main.finish stop.result
  | .ok i =>
    match i.run (← Criteria.Main.surroundings i) with
    | .ok result => Criteria.Main.finish result
    | .error failure =>
      IO.eprintln failure.message
      return 1
