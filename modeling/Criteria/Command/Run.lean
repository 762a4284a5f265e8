import Criteria.Command
import Criteria.Display
import Criteria.Schema.File
import Criteria.Terminal.Table
import Criteria.Token.Styled
import Criteria.Validation
import Criteria.Validation.Schema
import Criteria.Wire.Query
import Criteria.Wire.Store

/-!
# Running commands

A command reads a schema, and most commands read a filter, from a file or from the standard
input. What was skipped is reported on the error stream and shows in the exit code, as do
the problems that a check found. What cannot be read at all ends a command with code 2.
-/

namespace Criteria

structure RunResult where
  exit : Nat := 0
  output : String := ""
  errors : String := ""
  deriving Repr, DecidableEq

inductive StatusKind where
  | success
  | warning
  | error
  deriving Repr, DecidableEq

namespace StatusKind

def icon : StatusKind → String
  | success => "✅"
  | warning => "⚠️"
  | error => "❌"

def color : StatusKind → String
  | success => "green"
  | warning => "yellow"
  | error => "red"

def line (k : StatusKind) (message : String) : String :=
  let start := s!"[{k.color}]{k.icon} ".toList
  let stop := s!"[/{k.color}]".toList
  Terminal.print (Terminal.unmarked (start ++ Terminal.escape message.toList ++ stop))

end StatusKind

/-! ## The log -/

inductive LogLevel where
  | debug
  | warning
  deriving Repr, DecidableEq

def LogLevel.name : LogLevel → String
  | debug => "DEBUG"
  | warning => "WARNING"

structure LogEntry where
  level : LogLevel
  source : String
  message : String

def LogEntry.line (e : LogEntry) : String :=
  s!"{e.level.name} {e.source}: {e.message}\n"

def LogEntry.lines (verbose : Bool) (es : List LogEntry) : String :=
  String.join <| (es.filter fun e => verbose || e.level == .warning).map line

namespace Restoration

def logSource : String := "filterbox.serialization"

/-- What restoring stored entries logs: first what it skipped, then what it assumed. -/
def log (r : Restoration) : List LogEntry :=
  let skipped := r.errors.filterMap fun e => e.index.map fun i =>
    ⟨.warning, logSource, s!"Skipping serialized expression {i}: {e.cause.message}"⟩
  let assumed := r.assumed.map fun i =>
    ⟨.warning, logSource,
      s!"Decoded expression {i} has no connector; assuming {Connector.implied}"⟩
  skipped ++ assumed

def queryLog (r : Restoration) : List LogEntry :=
  r.errors.filterMap fun e =>
    match e.cause with
    | .entry (.unknownField key) =>
      some ⟨.debug, logSource, s!"Skipping unknown query-string field: {key}"⟩
    | _ => none

def countLog (r : Restoration) : LogEntry :=
  ⟨.debug, "filterbox.main.handlers",
    s!"Decoded {r.expressions.length} expression(s), skipped {r.errors.length}"⟩

def skipped (r : Restoration) : String :=
  String.join <| r.errors.map fun e =>
    let place := match e.index with
      | some i => s!"entry {i}"
      | none => "input"
    StatusKind.warning.line s!"Skipped {place}: {e.cause.message}"

def exit (r : Restoration) : Nat :=
  if r.isComplete then 0 else 1

end Restoration

/-! ## Reports -/

namespace Report

def indexText : Option Int → String
  | some i => toString (i + 1)
  | none => ""

def table (r : Report) : Terminal.Table where
  title := "Validation"
  heads := ["Level", "Expression", "Field", "Message"]
  rows :=
    r.errors.map (fun p => ["error", indexText p.index, p.field.getD "", p.message]) ++
      r.warnings.map fun n => ["warning", indexText n.index, n.field.getD "", n.message]

def shown (r : Report) : String :=
  if r.isValid && r.warnings.isEmpty then StatusKind.success.line "Filter is valid"
  else r.table.print

def log (r : Report) (es : Filter) : LogEntry :=
  ⟨.debug, "filterbox.validation",
    s!"Validated {es.length} expression(s): {r.errors.length} error(s), " ++
      s!"{r.warnings.length} warning(s)"⟩

end Report

namespace Command

def schemaVariable : String := "FILTERBOX_SCHEMA"

def refused (message : String) : RunResult :=
  { exit := 2, errors := StatusKind.error.line message }

/-- The schema that a command chose. A choice without a path is nothing that can be loaded. -/
def loadSchema (s : Surroundings) : SchemaChoice → Except LoadFailure Schema
  | .standard => Schema.load s none
  | .file path => Schema.load s path
  | .unnamed => .error (.fault .wrongKind)

/-- Go on with the schema, if there is one. Only what is wrong with the file itself is told
to the user. -/
def withSchema (s : Surroundings) (choice : SchemaChoice)
    (go : Schema → Except Fault RunResult) : Except LoadFailure RunResult :=
  match loadSchema s choice with
  | .ok schema => Config.orFault (go schema)
  | .error (.fault f) => .error (.fault f)
  | .error (.directory path) => .error (.directory path)
  | .error f => .ok (refused f.message)

/-- The text of a filter file; a hyphen names the standard input. -/
def filterText (s : Surroundings) (file : String) : Except FileError String :=
  if file = "-" then .ok s.input else s.readText file

/-- Go on with the filter of a file, if it can be read. What its restoring logs and skips
comes before all that follows. -/
def withFilter (s : Surroundings) (verbose : Bool) (schema : Schema) (file : String)
    (go : Restoration → Except Fault RunResult) : Except Fault RunResult :=
  match filterText s file with
  | .error e => .ok (refused s!"Could not read {file}: {e.message file}")
  | .ok text => do
    let r ← schema.restoreJson text
    let result ← go r
    let before := LogEntry.lines verbose (r.log ++ [r.countLog]) ++ r.skipped
    return { result with errors := before ++ result.errors }

def runCheckSchema (schema : Schema) : Except Fault RunResult := do
  let report ← schema.selfCheck
  if report.isValid then
    return { output := StatusKind.success.line s!"Schema OK: {schema.fields.length} field(s)" }
  else return { exit := 1, output := report.shown }

def runDisplay (r : Restoration) (plain symbols : Bool) : Except Fault RunResult := do
  let output ←
    if plain then do pure ((← r.expressions.display { symbols }) ++ "\n")
    else do
      let line ← Token.line symbols (Token.project r.expressions none none)
      pure (Terminal.print line.plain.toList)
  return { exit := r.exit, output }

def runFromQuery (verbose : Bool) (schema : Schema) (query : String) : Except Fault RunResult := do
  let r := schema.restoreQuery query
  let json ← r.expressions.toJson schema {} (.indented 2)
  return {
    exit := r.exit
    output := json ++ "\n"
    errors := LogEntry.lines verbose r.queryLog ++ r.skipped }

def runValidate (verbose : Bool) (schema : Schema) (r : Restoration) : Except Fault RunResult := do
  let report ← schema.validate r.expressions
  return {
    exit := if report.isValid then r.exit else 1
    output := report.shown
    errors := LogEntry.lines verbose [report.log r.expressions] }

end Command

def Invocation.run (i : Invocation) (s : Surroundings) : Except LoadFailure RunResult :=
  match i.command with
  | .checkSchema choice => Command.withSchema s choice Command.runCheckSchema
  | .display file choice plain symbols =>
    Command.withSchema s choice fun schema =>
      Command.withFilter s i.verbose schema file fun r => Command.runDisplay r plain symbols
  | .fromQuery query choice =>
    Command.withSchema s choice fun schema => Command.runFromQuery i.verbose schema query
  | .toQuery file choice =>
    Command.withSchema s choice fun schema =>
      Command.withFilter s i.verbose schema file fun r =>
        .ok { exit := r.exit, output := r.expressions.toQuery ++ "\n" }
  | .validate file choice =>
    Command.withSchema s choice fun schema =>
      Command.withFilter s i.verbose schema file fun r => Command.runValidate i.verbose schema r

namespace Command

def schemaChoice : Command → SchemaChoice
  | checkSchema choice | display _ choice .. | fromQuery _ choice | toQuery _ choice
  | validate _ choice => choice

def schemaFile? (c : Command) (s : Surroundings) : Option String :=
  match c.schemaChoice with
  | .standard => some (Schema.filePath s none)
  | .file path => some path
  | .unnamed => none

def file? : Command → Option String
  | display file .. | toQuery file _ | validate file _ => some file
  | checkSchema _ | fromQuery .. => none

end Command

def Invocation.paths (i : Invocation) (s : Surroundings) : List String :=
  (i.command.schemaFile? s).toList ++ (i.command.file?.filter (· != "-")).toList

def Stop.result : Stop → RunResult
  | .version => { output := s!"{Command.program} {Command.version}\n" }
  | .help program => { output := s!"usage: {program} [-h] ...\n" }
  | .usage error => { exit := 2, errors := error.message ++ "\n" }

def Command.main (args : List String) (s : Surroundings) : Except LoadFailure RunResult :=
  match Invocation.ofArguments args with
  | .ok i => i.run s
  | .error stop => .ok stop.result

end Criteria
