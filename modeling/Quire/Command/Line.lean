import Quire.Command.Grammar

/-! What can be asked for on the command line. -/

namespace Quire.Command

/-- Help is offered by every grammar. -/
def helpOption : OptionSpec := ⟨["-h", "--help"], "help", .help, false⟩

def anyText : OptionKind := .value fun _ => true

def oneOf (choices : List String) : OptionKind := .value choices.contains

def wholeNumber : OptionKind := .value fun s => (Numeral.whole s).isOk

def profiles : List String := ["conservative", "balanced", "aggressive"]

def modes : List String := ["full", "template-only", "validation-only"]

def commandGrammar : Grammar where
  options := [helpOption, ⟨["--log-level"], "log-level", anyText, false⟩]
  arguments := [("command", .rest)]

def runGrammar : Grammar where
  options := [helpOption, ⟨["-c", "--config"], "config", anyText, true⟩,
    ⟨["--override-max-workers"], "max-workers", wholeNumber, false⟩,
    ⟨["--override-parallel"], "parallel", .flag, false⟩, ⟨["--dry-run"], "dry-run", .flag, false⟩]
  arguments := []

def buildGrammar : Grammar where
  options := [helpOption, ⟨["-o", "--output"], "output", anyText, false⟩,
    ⟨["--template"], "template", anyText, false⟩, ⟨["--format"], "format", oneOf ["json", "yaml"], false⟩,
    ⟨["--parallel"], "parallel", .flag, false⟩, ⟨["--max-workers"], "max-workers", wholeNumber, false⟩,
    ⟨["--profile"], "profile", oneOf profiles, false⟩, ⟨["--mode"], "mode", oneOf modes, false⟩]
  arguments := [("schema", .one), ("patterns", .many)]

def validateGrammar : Grammar where
  options := [helpOption]
  arguments := [("schema", .one), ("patterns", .many)]

def planGrammar : Grammar where
  options := [helpOption, ⟨["--parallel"], "parallel", .flag, false⟩,
    ⟨["--max-workers"], "max-workers", wholeNumber, false⟩,
    ⟨["--profile"], "profile", oneOf profiles, false⟩]
  arguments := [("patterns", .many)]

/-- What the settings of a file are overridden with. -/
structure RunOptions where
  config : String
  workers : Option Int
  parallel : Bool
  dryRun : Bool

structure BuildOptions where
  schema : String
  patterns : List String
  output : Option String := none
  template : Option String := none
  format : String := "json"
  parallel : Bool := false
  workers : Option Int := none
  profile : Option String := none
  mode : String := "full"

structure PlanOptions where
  patterns : List String
  parallel : Bool
  workers : Option Int
  profile : Option String

inductive Request
  | run (o : RunOptions)
  | build (o : BuildOptions)
  | validate (schema : String) (patterns : List String)
  | plan (o : PlanOptions)

structure Line where
  logLevel : String
  request : Request

namespace Line

def whole? (p : Parsed) (key : String) : Option Int :=
  (p.last? key).bind fun s => (Numeral.whole s).toOption

def textOf (p : Parsed) (key : String) (default : String) : String := (p.last? key).getD default

def runOptions (p : Parsed) : RunOptions where
  config := textOf p "config" ""
  workers := whole? p "max-workers"
  parallel := p.has "parallel"
  dryRun := p.has "dry-run"

def buildOptions (p : Parsed) : BuildOptions where
  schema := textOf p "schema" ""
  patterns := p.all "patterns"
  output := p.last? "output"
  template := p.last? "template"
  format := textOf p "format" "json"
  parallel := p.has "parallel"
  workers := whole? p "max-workers"
  profile := p.last? "profile"
  mode := textOf p "mode" "full"

def planOptions (p : Parsed) : PlanOptions where
  patterns := p.all "patterns"
  parallel := p.has "parallel"
  workers := whole? p "max-workers"
  profile := p.last? "profile"

/-- The request of a command, and whether all of its line has a place. -/
def requestOf (name : String) (line : List String) : Except Halt (Request × Bool) := do
  match name with
  | "run" =>
    let p ← runGrammar.parse line
    return (.run (runOptions p), p.stray)
  | "build" =>
    let p ← buildGrammar.parse line
    return (.build (buildOptions p), p.stray)
  | "validate" =>
    let p ← validateGrammar.parse line
    return (.validate (textOf p "schema" "") (p.all "patterns"), p.stray)
  | "plan" =>
    let p ← planGrammar.parse line
    return (.plan (planOptions p), p.stray)
  | _ => throw .misuse

/-- Everything on a line must have a place. -/
def parse (line : List String) : Except Halt Line := do
  let top ← commandGrammar.parse line
  match top.all "command" with
  | [] => throw .misuse
  | name :: rest =>
    let (request, stray) ← requestOf name rest
    if stray || top.stray then throw .misuse
    return ⟨textOf top "log-level" "WARNING", request⟩

end Line
end Quire.Command
