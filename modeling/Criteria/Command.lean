import Criteria.Arguments

/-!
# Commands

The commands of the program and the grammar of their arguments.
-/

namespace Criteria

inductive SchemaChoice where
  | standard
  | file (path : String)
  | unnamed
  deriving Repr, DecidableEq

inductive Command where
  | checkSchema (schema : SchemaChoice)
  | display (file : String) (schema : SchemaChoice) (plain symbols : Bool)
  | fromQuery (query : String) (schema : SchemaChoice)
  | toQuery (file : String) (schema : SchemaChoice)
  | validate (file : String) (schema : SchemaChoice)
  deriving Repr, DecidableEq

structure Invocation where
  command : Command
  verbose : Bool
  deriving Repr, DecidableEq

inductive Stop where
  | version
  | help (program : String)
  | usage (error : Arguments.UsageError)
  deriving Repr, DecidableEq

namespace Command

open Arguments

def program : String := "filterbox"

def version : String := "0.1.0"

def helpOption : OptionRule := { names := ["-h", "--help"] }

def verboseOption : OptionRule := { names := ["-v", "--verbose"] }

def versionOption : OptionRule := { names := ["--version"] }

def plainOption : OptionRule := { names := ["-p", "--plain"] }

def schemaOption : OptionRule := { names := ["-s", "--schema"], takesValue := true }

def symbolsOption : OptionRule := { names := ["--symbols"] }

def mainGrammar : Grammar :=
  { program
    options := [helpOption, verboseOption, versionOption]
    positional := "command"
    arity := .command }

structure Settings where
  argument : Option String := none
  options : List (String × Option String) := []

namespace Settings

def has (s : Settings) (o : OptionRule) : Bool :=
  s.options.any (·.1 == o.name)

def text (s : Settings) : String :=
  s.argument.getD ""

def schema (s : Settings) : SchemaChoice :=
  match s.options.reverse.lookup schemaOption.name with
  | none => .standard
  | some none => .unnamed
  | some (some path) => .file path

def argumentSchema (s : Settings) : SchemaChoice :=
  match s.argument with
  | none => .standard
  | some path => .file path

end Settings

structure Rule where
  name : String
  positional : String
  arity : Arity := .one
  options : List OptionRule
  make : Settings → Command

def Rule.grammar (f : Rule) : Grammar :=
  { program := s!"{program} {f.name}"
    options := helpOption :: f.options
    positional := f.positional
    arity := f.arity }

def rules : List Rule :=
  [{ name := "check-schema"
     positional := "schema_path"
     arity := .optional
     options := []
     make := fun s => .checkSchema s.argumentSchema },
   { name := "display"
     positional := "file"
     options := [plainOption, schemaOption, symbolsOption]
     make := fun s => .display s.text s.schema (s.has plainOption) (s.has symbolsOption) },
   { name := "from-query"
     positional := "query"
     options := [schemaOption]
     make := fun s => .fromQuery s.text s.schema },
   { name := "to-query"
     positional := "file"
     options := [schemaOption]
     make := fun s => .toQuery s.text s.schema },
   { name := "validate"
     positional := "file"
     options := [schemaOption]
     make := fun s => .validate s.text s.schema }]

def usage {α : Type} (program : String) (problem : UsageProblem) : Except Stop α :=
  .error (.usage ⟨program, problem⟩)

/-- The settings that events make; a call for help ends the reading. -/
def settings (program : String) : List Event → Except Stop Settings
  | [] => .ok {}
  | .option name value :: rest =>
    if name = helpOption.name then .error (.help program)
    else do
      let s ← settings program rest
      return { s with options := (name, value) :: s.options }
  | .positional texts :: rest => do
    let s ← settings program rest
    return { s with argument := texts.head? }

/-- The command that a name and its arguments ask for, with the words that are left over. -/
def ofWords (name : String) (args : List String) : Except Stop (Command × List String) := do
  match rules.find? (·.name == name) with
  | none => usage program (.unknownChoice mainGrammar.positional name (rules.map (·.name)))
  | some f =>
    let parsed := f.grammar.parse args
    let s ← settings f.grammar.program parsed.events
    match parsed.problem with
    | some p => usage f.grammar.program p
    | none => return (f.make s, parsed.extras)

structure Progress where
  verbose : Bool := false
  command : Option Command := none
  extras : List String := []

def follow (r : Progress) : List Event → Except Stop Progress
  | [] => .ok r
  | .option name _ :: rest =>
    if name = versionOption.name then .error .version
    else if name = helpOption.name then .error (.help program)
    else follow { r with verbose := true } rest
  | .positional [] :: rest => follow r rest
  | .positional (name :: args) :: rest => do
    let (command, extras) ← ofWords name args
    follow { r with command := some command, extras } rest

end Command

open Command in
def Invocation.ofArguments (args : List String) : Except Stop Invocation := do
  let parsed := mainGrammar.parse args
  let r ← follow {} parsed.events
  match parsed.problem, r.command, parsed.extras ++ r.extras with
  | some p, _, _ => usage program p
  | none, none, _ => usage program (.missing mainGrammar.positional)
  | none, some command, [] => return ⟨command, r.verbose⟩
  | none, some _, extras => usage program (.unrecognized extras)

end Criteria
