import Criteria.Files
import Criteria.Schema.Config
import Criteria.Yaml.Value

/-!
# Schema files

A schema is read from a YAML file: the one that is given, else the one that the variable
for it names, else the one in the home directory.
-/

namespace Criteria.Schema

def defaultPath : String := "~/.config/filterbox/schema.yml"

/-- The schema file that is used where none is given. An empty variable does not count. -/
def standardPath (s : Surroundings) : String :=
  s.expand <| match s.schemaVariable with
    | some path => if path.isEmpty then defaultPath else path
    | none => defaultPath

def filePath (s : Surroundings) (given : Option String) : String :=
  given.getD (standardPath s)

def ofYaml (path text : String) : Except LoadFailure Schema :=
  match Yaml.read text with
  | .ok d => Schema.ofData d
  | .error .malformed => .error (.config (.invalidYaml path))
  | .error (.fault f) => .error (.fault f)

def load (s : Surroundings) (given : Option String) : Except LoadFailure Schema :=
  let path := filePath s given
  match s.readText path with
  | .ok text => ofYaml path text
  | .error .directory => .error (.directory path)
  | .error _ => .error (.notFound path)

end Criteria.Schema
