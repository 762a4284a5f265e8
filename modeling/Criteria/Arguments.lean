import Criteria.Text.Digit
import Criteria.Text.Quoted

/-!
# Command line arguments

A grammar of a command line has options, which may take a value, and one positional
argument, which for a program with commands takes everything after it. Long options may be
shortened as long as that is not ambiguous, and everything after `--` is positional.

What is attached to a short option without a value, by an equals sign or by nothing, is a row
of further short options. All of them must be known, or none counts.
-/

namespace Criteria.Arguments

structure OptionRule where
  names : List String
  takesValue : Bool := false
  deriving Repr, DecidableEq

inductive Arity where
  | one
  | optional
  | command
  deriving Repr, DecidableEq

structure Grammar where
  program : String
  options : List OptionRule
  positional : String
  arity : Arity := .one
  deriving Repr

inductive UsageProblem where
  | ambiguous (given : String) (candidates : List String)
  | noValue (option : OptionRule)
  | unwantedValue (option : OptionRule) (value : String)
  | unknownChoice (positional given : String) (choices : List String)
  | missing (positional : String)
  | unrecognized (given : List String)
  deriving Repr, DecidableEq

def OptionRule.title (o : OptionRule) : String :=
  "/".intercalate o.names

def OptionRule.name (o : OptionRule) : String :=
  o.names.getLast?.getD ""

def UsageProblem.message : UsageProblem → String
  | ambiguous given candidates =>
    s!"ambiguous option: {given} could match " ++ ", ".intercalate candidates
  | noValue option => s!"argument {option.title}: expected one argument"
  | unwantedValue option value =>
    s!"argument {option.title}: ignored explicit argument {Text.quoted value}"
  | unknownChoice positional given choices =>
    let offered := ", ".intercalate (choices.map Text.quoted)
    s!"argument {positional}: invalid choice: {Text.quoted given} (choose from {offered})"
  | missing positional => s!"the following arguments are required: {positional}"
  | unrecognized given => "unrecognized arguments: " ++ " ".intercalate given

structure UsageError where
  program : String
  problem : UsageProblem
  deriving Repr, DecidableEq

def UsageError.message (e : UsageError) : String :=
  s!"{e.program}: error: {e.problem.message}"

/-! ## Words -/

structure Reading where
  rule : OptionRule
  name : String
  attached : Option String := none
  deriving Repr

inductive Word where
  | plain (text : String)
  | divider
  /-- A word that looks like an option, and the option that it is, if any. -/
  | option (text : String) (reading : Option Reading)
  deriving Repr

namespace Word

def text : Word → String
  | plain t => t
  | divider => "--"
  | option t _ => t

def isOption : Word → Bool
  | option .. => true
  | _ => false

def isDivider : Word → Bool
  | divider => true
  | _ => false

def isPlain : Word → Bool
  | plain _ => true
  | _ => false

end Word

namespace Grammar

def named (g : Grammar) : List (String × OptionRule) :=
  g.options.flatMap fun o => o.names.map (·, o)

def splitEquals (cs : List Char) : List Char × Option (List Char) :=
  match cs.dropWhile (· != '=') with
  | [] => (cs, none)
  | _ :: value => (cs.takeWhile (· != '='), some value)

/-- The options that a word may stand for when it is no whole name: long options that it
begins, or the short option that it starts with. -/
def candidates (g : Grammar) (cs : List Char) : List Reading :=
  match cs with
  | '-' :: '-' :: _ =>
    let (start, value) := splitEquals cs
    g.named.filterMap fun (name, rule) =>
      if start.isPrefixOf name.toList then some ⟨rule, name, value.map String.ofList⟩ else none
  | _ =>
    g.named.filterMap fun (name, rule) =>
      if name.toList == cs.take 2 then some ⟨rule, name, some (String.ofList (cs.drop 2))⟩
      else if cs.isPrefixOf name.toList then some ⟨rule, name, none⟩
      else none

def isNegativeNumber : List Char → Bool
  | '-' :: rest =>
    let isDigit c := (Text.digitValue? c).isSome
    let rest := if rest.getLast? = some '\n' then rest.dropLast else rest
    match rest.dropWhile isDigit with
    | [] => !rest.isEmpty
    | '.' :: fraction => !fraction.isEmpty && fraction.all isDigit
    | _ => false
  | _ => false

def word (g : Grammar) (text : String) : Except UsageProblem Word :=
  let cs := text.toList
  if cs.head? != some '-' || cs.length == 1 then .ok (.plain text)
  else match g.named.lookup text with
    | some rule => .ok (.option text (some ⟨rule, text, none⟩))
    | none =>
      let (start, value) := splitEquals cs
      let name := String.ofList start
      match value.bind fun _ => g.named.lookup name with
      | some rule => .ok (.option text (some ⟨rule, name, value.map String.ofList⟩))
      | none =>
        match g.candidates cs with
        | [] =>
          if isNegativeNumber cs || cs.contains ' ' then .ok (.plain text)
          else .ok (.option text none)
        | [reading] => .ok (.option text (some reading))
        | readings => .error (.ambiguous text (readings.map (·.name)))

def words (g : Grammar) : List String → Except UsageProblem (List Word)
  | [] => .ok []
  | "--" :: rest => .ok (.divider :: rest.map .plain)
  | text :: rest => do return (← g.word text) :: (← g.words rest)

end Grammar

/-! ## Reading words -/

/-- What the arguments say, in order. An option has no value if it takes none, or if what
was attached to it is the divider. -/
inductive Event where
  | option (name : String) (value : Option String)
  | positional (texts : List String)
  deriving Repr

structure Parsed where
  events : List Event := []
  extras : List String := []
  problem : Option UsageProblem := none

def Parsed.before (events : List Event) (extras : List String) (p : Parsed) : Parsed :=
  { p with events := events ++ p.events, extras := extras ++ p.extras }

def Event.isPositional : Event → Bool
  | .positional _ => true
  | .option .. => false

structure OptionRead where
  events : List Event
  rest : List Word

namespace Grammar

def positionalLength (g : Grammar) (ws : List Word) : Option Nat :=
  let dividers := (ws.takeWhile Word.isDivider).length
  match ws.drop dividers with
  | .plain _ :: rest =>
    match g.arity with
    | .command => some ws.length
    | _ => some (dividers + 1 + (rest.takeWhile Word.isDivider).length)
  | _ => if g.arity = .optional then some dividers else none

/-- The texts of the positional argument. One divider among them is no text of its own,
except before a command. -/
def positionalTexts (g : Grammar) (ws : List Word) : List String :=
  let texts := ws.map Word.text
  if g.arity = .command then texts else texts.erase "--"

def attachedValue (text : String) : Option String :=
  if text = "--" then none else some text

/-- An option with the words after it; the fuel bounds the options that are joined. -/
def readOption (g : Grammar) (rest : List Word) : Nat → Reading → Except UsageProblem OptionRead
  | 0, r => .error (.noValue r.rule)
  | fuel + 1, r =>
    match r.attached with
    | none =>
      if r.rule.takesValue then
        match rest with
        | .plain v :: rest => .ok ⟨[.option r.rule.name (some v)], rest⟩
        | _ => .error (.noValue r.rule)
      else .ok ⟨[.option r.rule.name none], rest⟩
    | some text =>
      if r.rule.takesValue then .ok ⟨[.option r.rule.name (attachedValue text)], rest⟩
      else
        let next? := do
          let c ← text.toList.head?
          if r.name.startsWith "--" then none else g.named.lookup (String.ofList ['-', c])
        match next?, text.toList with
        | some rule, c :: more => do
          let attached := if more.isEmpty then none else some (String.ofList more)
          let read ← g.readOption rest fuel ⟨rule, String.ofList ['-', c], attached⟩
          return { read with events := .option r.rule.name none :: read.events }
        | _, _ => .error (.unwantedValue r.rule text)

def readTail (g : Grammar) (waiting : Bool) (ws : List Word) : Parsed :=
  match if waiting then g.positionalLength ws else none with
  | some n =>
    { events := [.positional (g.positionalTexts (ws.take n))]
      extras := (ws.drop n).map Word.text }
  | none => { extras := ws.map Word.text }

/-- Read words; `waiting` says that the positional argument has not come yet. -/
def readWords (g : Grammar) : Nat → Bool → List Word → Parsed
  | 0, _, _ => {}
  | fuel + 1, waiting, ws =>
    if !ws.any Word.isOption then g.readTail waiting ws
    else match ws with
      | .option text none :: rest => (g.readWords fuel waiting rest).before [] [text]
      | .option text (some reading) :: rest =>
        match g.readOption rest (text.length + 1) reading with
        | .ok read => (g.readWords fuel waiting read.rest).before read.events []
        | .error p => { problem := some p }
      | ws =>
        match if waiting then g.positionalLength ws else none with
        | some n =>
          (g.readWords fuel false (ws.drop n)).before
            [.positional (g.positionalTexts (ws.take n))] []
        | none =>
          (g.readWords fuel waiting (ws.dropWhile (!·.isOption))).before []
            ((ws.takeWhile (!·.isOption)).map Word.text)

def parse (g : Grammar) (args : List String) : Parsed :=
  match g.words args with
  | .error p => { problem := some p }
  | .ok ws =>
    let parsed := g.readWords (2 * ws.length + 1) true ws
    if parsed.problem.isNone && !parsed.events.any Event.isPositional then
      { parsed with problem := some (.missing g.positional) }
    else parsed

end Grammar

end Criteria.Arguments
