import Quire.Command.Line
import Quire.Config.Layered
import Quire.Config.Reading
import Quire.Config.Report
import Quire.Logging
import Quire.Pipeline

/-! Carrying out what the command line asks for: what is printed, what is told
on the error stream, which files are written, and the exit code. -/

namespace Quire.Command

/-- What a command may look at besides files: the gauges, the time of day as log
lines give it, and how long the run is said to have taken. -/
structure Surroundings where
  gauges : Gauges
  time : String
  milliseconds : Value

structure Console where
  tree : FileTree
  logging : Logging := {}
  output : String := ""

def errorStream : String := "stderr"

def Console.errors (c : Console) : String := c.logging.text errorStream

abbrev Act := ExceptT Failure (StateM Console)

namespace Act

def ofOutcome {α : Type} (r : Outcome α) : Act α := ExceptT.mk (pure r)

def print (text : String) : Act Unit := modify fun c => { c with output := c.output ++ text }

def complain (text : String) : Act Unit :=
  modify fun c => { c with logging := c.logging.write errorStream text }

def log (s : Surroundings) (journal : Journal) : Act Unit :=
  modify fun c => { c with logging := journal.foldl (fun l e =>
    l.emit e.channel.logger (.int e.note.severity.rank) (.str e.note.text) s.time) c.logging }

/-- Points the loggers at the error stream. -/
def applyLogging (l : LoggingConfig) : Act Unit := do
  let (logging, done) := (← get).logging.configure l errorStream
  modify fun c => { c with logging }
  discard <| ofOutcome (done : Except Mishap _)

def printJson (v : Value) : Act Unit := do
  print ((← ofOutcome (Json.write .console v : Except Mishap _)) ++ "\n")

end Act

open Act

/-! ### Running -/

def closingNote (o : ProcessingOutcome) : Entry :=
  ⟨.runner, .info, s!"Aggregated {o.documents.length} of {o.fileCount} document(s) "
    ++ s!"({o.errors.length} error(s))"⟩

def runnerNotes (r : RunReport) : Journal :=
  if r.ok then (r.outcome.map closingNote).toList else []

def runConfig (s : Surroundings) (config : Config) : Act RunReport := do
  let pipeline ← ofOutcome (Pipeline.create config none {} {} : Except Mishap _)
  let (r, session) := Session.run { pipeline, tree := (← get).tree, gauges := s.gauges }
  modify fun c => { c with tree := session.tree }
  log s (session.journal ++ runnerNotes r)
  return r

def withLineEnd (text : String) : String :=
  if text.toList.getLast? = some '\n' then text else text ++ "\n"

/-- Prints the output itself or a summary of the run, and gives the exit code. -/
def tell (s : Surroundings) (r : RunReport) (outputItself : Bool) : Act Nat := do
  match r.output, outputItself && r.ok with
  | some text, true => print (withLineEnd text)
  | _, _ => printJson (r.summary s.milliseconds)
  if let some f := r.error then complain ("Error: " ++ f.message ++ "\n")
  return if r.ok then 0 else 1

/-! ### The commands -/

def withWorkers (n : Int) (c : Config) : Except Mishap Config := do
  let p ← c.processing.get "max_workers"
  return { c with processing := .fields { p with workers := .int n } }

def inParallel (c : Config) : Except Mishap Config := do
  let p ← c.processing.get "parallel"
  return { c with processing := .fields { p with parallel := .bool true } }

def overridden (o : RunOptions) (c : Config) : Except Mishap Config := do
  let c ← match o.workers with
    | some n => withWorkers n c
    | none => pure c
  if o.parallel then inParallel c else pure c

/-- The settings as they are after a check. -/
def checked (c : Config) : Outcome Config :=
  let (c, done) := c.validate
  done.map fun _ => c

def run (s : Surroundings) (o : RunOptions) : Act Nat := do
  let c ← ofOutcome (Config.load (← get).tree (FileName.ofString o.config))
  let c ← ofOutcome (overridden o c : Except Mishap _)
  if o.dryRun then
    printJson (← ofOutcome (checked c)).report
    return 0
  applyLogging (← ofOutcome (c.logging.get "apply" : Except Mishap _))
  let r ← runConfig s c
  let output ← ofOutcome (c.output.get "output_path" : Except Mishap _)
  tell s r (!output.path.truthy)

def optionalText (s : Option String) : Value := (s.map Value.str).getD .null

def optionalWhole (n : Option Int) : Value := (n.map Value.int).getD .null

def BuildOptions.arguments (o : BuildOptions) : BuildArguments where
  schema := .str o.schema
  patterns := .list (o.patterns.map .str)
  output := optionalText o.output
  template := optionalText o.template
  format := .str o.format
  parallel := .bool o.parallel
  workers := optionalWhole o.workers
  mode := .str o.mode
  profile := optionalText o.profile

def runBuild (s : Surroundings) (o : BuildOptions) : Act RunReport := do
  runConfig s (← ofOutcome (o.arguments.laidOn {} : Except Mishap _))

def build (s : Surroundings) (o : BuildOptions) : Act Nat := do
  let toFile := o.output.any (· ≠ "")
  tell s (← runBuild s o) (!toFile && o.mode ≠ Mode.validationOnly.name)

def validate (s : Surroundings) (schema : String) (patterns : List String) : Act Nat := do
  tell s (← runBuild s { schema, patterns, mode := Mode.validationOnly.name }) false

/-! ### Planning -/

/-- What a build would do with a number of files. -/
structure Plan where
  files : Nat
  strategy : Strategy
  stats : Value
  bounds : Bounds

def boundsFields : Bounds → List (String × Value)
  | .unbounded => []
  | .bounded l => [("memory_limit_mb", .ofNumber l.memory), ("file_limit", .ofNumber l.files),
      ("time_limit_s", .ofNumber l.time)]

def Plan.report (p : Plan) : Value :=
  .record [("files", .int p.files), ("strategy", .str (Strategy.word p.strategy.parallel)),
    ("max_workers", p.strategy.workers), ("reason", .str p.strategy.reason), ("stats", p.stats),
    ("bounds", .record (("kind", .str p.bounds.kind) :: boundsFields p.bounds))]

def planProfile (o : PlanOptions) : Outcome StrategyProfile :=
  match o.profile with
  | some name => if name = "" then .ok {} else StrategyProfile.ofPreset (.str name)
  | none => .ok {}

def planned (s : Surroundings) (o : PlanOptions) (files : Nat) : Act Plan := do
  let options : ProcessingConfig := { parallel := .bool o.parallel, workers := optionalWhole o.workers }
  let profile ← ofOutcome (planProfile o)
  let choice := Strategy.attempt (.int files) (some options) none profile
  log s (Channel.strategy.entries choice.notes)
  let strategy ← ofOutcome choice.result
  let bounds ← ofOutcome (Bounds.resolve (.whole files) none : Except Fault _)
  let stats ← ofOutcome (Strategy.stats (.int files) none profile : Except Mishap _)
  return ⟨files, strategy, stats, bounds⟩

def plan (s : Surroundings) (o : PlanOptions) : Act Nat := do
  let found := FileLister.attempt {} (← get).tree (.list (o.patterns.map .str))
  log s (Channel.files.entries found.notes)
  let files ← ofOutcome found.result
  printJson (← planned s o files.length).report
  return 0

/-! ### The command line -/

/-- Loggers start out at the level that the line asks for. -/
def startLogging (level : String) : LoggingConfig where
  level := .str level
  propagate := .bool true
  format := .null

def carryOut (s : Surroundings) (line : Line) : Act Nat := do
  applyLogging (startLogging line.logLevel)
  match line.request with
  | .run o => run s o
  | .build o => build s o
  | .validate schema patterns => validate s schema patterns
  | .plan o => plan s o

/-- A fault is told of and ends with code 1; anything else is thrown. -/
def execute (s : Surroundings) (line : Line) : Act Nat :=
  tryCatch (carryOut s line) fun e =>
    match e with
    | .fault f => do
      complain ("Error: " ++ f.message ++ "\n")
      return 1
    | e => throw e

/-- The code that the program ends with; something thrown ends it as a fault does. -/
def exitCode (ended : Except Failure Nat) : Nat :=
  match ended with
  | .ok code => code
  | .error _ => 1

end Quire.Command
