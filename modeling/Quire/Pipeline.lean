import Quire.Config.Checking
import Quire.Defaults
import Quire.Execution
import Quire.Journal
import Quire.Pipeline.Machine
import Quire.Pipeline.Outcome
import Quire.Pipeline.Sources
import Quire.Serialize

/-! The pipeline: from settings to the finished output. A run goes through all
the phases of its mode; whatever goes wrong ends it in the failed state and is
part of its report. -/

namespace Quire

structure Pipeline where
  config : Config
  profile : Section StrategyProfile
  /-- The schema in use. -/
  schema : Option Schema
  /-- The schema that the pipeline was given, if it was given one. -/
  ownSchema : Option Schema
  /-- The settings that the sources were made from. -/
  bound : SourceConfig
  replacement : Replacement
  renderer : Renderer
  machine : Machine := {}

namespace Pipeline

def create (config : Config) (schema : Option Schema) (replacement : Replacement)
    (renderer : Renderer) : Except Mishap Pipeline := do
  return { config, schema, replacement, renderer
           profile := config.profile
           ownSchema := schema
           bound := ← config.sources.get "root_dir" }

def sources (p : Pipeline) : Sources := p.bound.sources p.replacement

end Pipeline

/-- A pipeline at work: the files it sees, its gauges, the order in which its
batches finish, its journal, and what the present run has come to. -/
structure Session where
  pipeline : Pipeline
  tree : FileTree
  gauges : Gauges
  finishing : Pool.Finishing := Pool.oldestFirst
  journal : Journal := []
  outcome : Option ProcessingOutcome := none
  outputPath : Option String := none

/-- Work in a session; what it did stays done if it fails. -/
abbrev Work := ExceptT Failure (StateM Session)

namespace Work

def say (channel : Channel) (severity : Severity) (text : String) : Work Unit :=
  modify fun s => { s with journal := s.journal ++ [⟨channel, severity, text⟩] }

def ofOutcome {α : Type} (r : Outcome α) : Work α := ExceptT.mk (Pure.pure r)

instance : MonadLift (Except Failure) Work where
  monadLift := ofOutcome

/-- An attempt, with its notes in the journal. -/
def tryOut {α : Type} (channel : Channel) (a : Attempt α) : Work α := do
  modify fun s => { s with journal := s.journal ++ channel.entries a.notes }
  ofOutcome a.result

/-- A use of the gauges. -/
def gauged {α : Type} (use : Gauges → Outcome α × Gauges) : Work α := do
  let (r, g) := use (← get).gauges
  modify fun s => { s with gauges := g }
  ofOutcome r

def traced {α : Type} (use : Gauges → Trace Gauges α) : Work α := do
  let t := use (← get).gauges
  modify fun s => { s with gauges := t.state, journal := s.journal ++ Channel.pipeline.entries t.notes }
  ofOutcome t.outcome

def transition (e : RunEvent) : Work RunState := do
  let s ← get
  let (r, machine, gauges) := s.pipeline.machine.transition e s.gauges
  set { s with gauges, pipeline := { s.pipeline with machine } }
  match r with
  | .ok target =>
    say .pipeline .debug (Machine.stepNote s.pipeline.machine.state target e).text
    return target
  | .error f => ofOutcome (.error f)

/-- Puts something to the machine by its name. -/
def offer (o : Offer) : Work RunState := do
  match o with
  | .event e => transition e
  | .state kind => ofOutcome (.error ((← get).pipeline.machine.refusal kind))

def onPipeline (change : Pipeline → Pipeline) : Work Unit :=
  modify fun s => { s with pipeline := change s.pipeline }

def resetMachine : Work Unit := onPipeline fun p => { p with machine := p.machine.reset }

end Work

namespace Pipeline

open Work

/-! ### Entering a run -/

/-- Takes new settings: the schema that was loaded for the old ones is given up,
and the sources are made anew. -/
def adopt (config : Config) : Work Unit := do
  onPipeline fun p => { p with config, schema := p.ownSchema }
  let bound ← ofOutcome (config.sources.get "root_dir" : Except Mishap _)
  onPipeline fun p => { p with bound, profile := config.profile }

/-- Enters the first phase anew, with other settings or another profile if such
are given. -/
def begin (config : Option Config) (profile : Option StrategyProfile) : Work RunState := do
  if let some c := config then adopt c
  if let some profile := profile then onPipeline fun p => { p with profile := .fields profile }
  resetMachine
  transition (.begin (.config (← get).pipeline.config))

/-! ### Processing -/

def noSchema : Fault := .configuration "no schema loaded; pass schema= or run load first" none

def intake (p : Pipeline) (tree : FileTree) (flatten : List String) : Intake where
  read := p.sources.read tree
  extract := p.sources.extract
  flatten := flatten

def processingNote (count : Nat) (s : Strategy) : String :=
  s!"Processing {count} file(s) " ++ (if s.parallel then "in parallel" else "sequentially") ++ " ("
    ++ s.reason ++ ")"

/-- The files through the executor that the strategy asks for. -/
def execute (m : Monitor) (s : Strategy) (work : String → Attempt Document) (files : List String) :
    Work (Execution Document) := do
  if files.isEmpty then return {}
  if s.parallel then
    traced (Execution.parallel (← get).finishing m.watch work files s.workers)
  else traced (Execution.sequential m.watch work files)

/-- The aggregate of the documents, with its defaults filled in. -/
def aggregate (schema : Schema) (documents : List Document) :
    Attempt (Entries × AggregationReport) := do
  let elements ← Aggregation.extract schema (documents.map fun d => .map d.metadata)
  let a ← Aggregation.attempt schema elements
  return (← Defaults.populate schema a.data, a.report)

def recoveryNotes (errors documents files : Nat) : List Note :=
  if errors = 0 then []
  else [⟨.warning, s!"Recovered from {errors} error(s); {documents} of {files} file(s) aggregated"⟩]

/-- The bounds that are given, or those of the settings. -/
def boundsFor (p : Pipeline) (count : Nat) (bounds : Option Bounds) : Outcome Bounds := do
  match bounds with
  | some b => return b
  | none => Bounds.resolve (.whole count) (← (p.config.bounds.given "unbounded" : Except Mishap _))

/-- The choice by the options that are given, or by those of the settings. -/
def strategyFor (p : Pipeline) (count : Nat) (options : Option ProcessingConfig) :
    Attempt Strategy := do
  let options ← match options with
    | some o => Attempt.pure (some o)
    | none => (p.config.processing.given "adaptive" : Except Mishap _)
  let profile ← (p.profile.getOr {} "min_files_for_parallel" : Except Mishap _)
  Strategy.attempt (.int count) options none profile

/-- Files to one aggregate. Files that fail are left out and reported. -/
def processDocuments (files : List String) (rules : Option RuleSet) (bounds : Option Bounds)
    (options : Option ProcessingConfig) : Work ProcessingOutcome := do
  let p := (← get).pipeline
  let some schema := p.schema | ofOutcome (.error (.fault noSchema))
  let bounds ← ofOutcome (p.boundsFor files.length bounds)
  let monitor ← gauged (Monitor.create bounds)
  let strategy ← tryOut .pipeline (p.strategyFor files.length options)
  say .pipeline .info (processingNote files.length strategy)
  let flatten ← ofOutcome schema.flattenPaths
  let intake := p.intake (← get).tree flatten
  let done ← execute monitor strategy (fun path => intake.process rules (.str path)) files
  let (data, report) ← tryOut .pipeline (aggregate schema done.results)
  let notes := recoveryNotes done.errors.length done.results.length files.length
  tryOut .pipeline ⟨notes, .ok ()⟩
  return ⟨data, done.results, done.errors, strategy, files.length, report⟩

/-! ### A whole run -/

/-- Checks the settings and keeps them as far as they were put in order. -/
def checkConfig : Work Unit := do
  let (config, checked) := (← get).pipeline.config.validate
  onPipeline fun p => { p with config }
  ofOutcome checked
  onPipeline fun p => { p with profile := config.profile }

def isIdle : RunState → Bool
  | .idle => true
  | _ => false

def isFresh : RunState → Bool
  | .idle => true
  | .initializing _ => true
  | _ => false

def loadSchema : Work Schema := do
  let s ← get
  match s.pipeline.schema with
  | some schema => return schema
  | none =>
    let path := s.pipeline.config.schemaPath.plain
    let schema ← tryOut .schema (Schema.attempt s.tree (FileName.ofString path))
    onPipeline fun p => { p with schema := some schema }
    return schema

def listFiles : Work (List String) := do
  let s ← get
  let sources ← ofOutcome (s.pipeline.config.sources.get "patterns" : Except Mishap _)
  let files ← tryOut .files (s.pipeline.sources.list s.tree sources.patterns)
  say .pipeline .info s!"Discovered {files.length} file(s)"
  return files

/-- Declared by a schema that came from a file, a template lies beside it. -/
def declaredTemplate (schema : Schema) (declared : String) : String :=
  match schema.source with
  | some source =>
    if (FileName.ofString declared).isAbsolute then declared
    else (source.parent.join (FileName.ofString declared)).text
  | none => declared

/-- The template in the settings goes before the one the schema declares. -/
def templatePath (output : OutputConfig) (schema : Schema) : Except Mishap (Option String) := do
  if output.template.truthy then return some output.template.plain
  match ← schema.templatePath with
  | some declared => return if declared = "" then none else some (declaredTemplate schema declared)
  | none => return none

def renderWith (template : Option Template) (data : Value) (format : Value) : Work String := do
  match template with
  | some t => ofOutcome ((← get).pipeline.renderer.render t data)
  | none => ofOutcome (serialize data format.plain : Except Mishap _)

def writeOutput (text path : String) : Work Unit := do
  let s ← get
  let (tree, done) := s.pipeline.renderer.write s.tree text path
  set { s with tree }
  let written ← ofOutcome done
  modify fun s => { s with outputPath := some written }
  say .pipeline .info ("Wrote output to " ++ written)

def templateCargo (t : Option Template) : Cargo :=
  match t with
  | some t => .template t
  | none => .value .null

/-- The last phases of a run that renders. -/
def produce (output : OutputConfig) (path : Option String) (data : Value) : Work Unit := do
  let template ← path.mapM fun path => do
    let s ← get
    tryOut .rendering (s.pipeline.renderer.load s.tree path)
  discard <| transition (.templateLoadComplete (templateCargo template))
  discard <| transition .generateOutput
  let text ← renderWith template data output.format
  if output.path.truthy then writeOutput text output.path.plain
  discard <| transition (.outputGenerationComplete (.value (.str text)))

/-- The rules that documents have to meet in a mode; for templates there are none. -/
def rulesIn (schema : Schema) (mode : Value) : Outcome (Option RuleSet) :=
  if mode.same (.str Mode.templateOnly.name) then .ok none else schema.rules.map some

/-- From the files to checked data. -/
def gather (schema : Schema) (mode : Value) : Work Entries := do
  let files ← listFiles
  discard <| transition (.parseFrontmatter (.value (.tuple (files.map .str))))
  let rules ← ofOutcome (rulesIn schema mode)
  let outcome ← processDocuments files rules none none
  modify fun s => { s with outcome := some outcome }
  let data := Value.map outcome.data
  discard <| transition (.frontmatterParseComplete (.value data))
  if let .validatingData _ _ _ ← transition .validateData then
    discard <| transition (.validationComplete (.value data))
  return outcome.data

/-- Enters the first phase, unless that has been done. -/
def enter : Work Unit := do
  if isIdle (← get).pipeline.machine.state then discard <| begin none none

/-- All the phases, to the last state. -/
def phases : Work RunState := do
  checkConfig
  enter
  let config := (← get).pipeline.config
  discard <| transition (.loadSchema (.value config.schemaPath.toText))
  let schema ← loadSchema
  discard <| transition (.schemaLoadComplete (.schema schema))
  let data ← gather schema config.mode
  let output ← ofOutcome (config.output.get "template_path" : Except Mishap _)
  let path ← ofOutcome (templatePath output schema : Except Mishap _)
  if let .loadingTemplate _ _ _ _ ← transition (.loadTemplate (.value (.str (path.getD "")))) then
    produce output path (.map data)
  transition .complete

def outputOf : RunState → Option String
  | .completed (.value (.str text)) _ => some text
  | _ => none

/-- A foreign failure is noted and wrapped; any failure is noted once more. -/
def failureNotes (phase : String) (e : Failure) : List Note :=
  (match e with
    | .fault _ => []
    | .mishap _ => [⟨.error, "Unexpected failure in " ++ phase⟩])
    ++ [⟨.error, "Pipeline failed in " ++ phase ++ ": " ++ (e.toFault none).message⟩]

/-- Takes the machine to the failed state, unless it is at an end already. -/
def conclude (e : Failure) : Work Unit := do
  let machine := (← get).pipeline.machine
  let fault := e.toFault none
  tryOut .pipeline ⟨failureNotes machine.state.name e, .ok ()⟩
  if machine.canProceed then
    discard <| transition (.fail ⟨.str machine.state.name, .str fault.message, some (.fault fault)⟩)

end Pipeline

namespace Session

open Pipeline

/-- A run starts over, except in a pipeline that has just been set up. -/
def ready (s : Session) : Session :=
  let machine := if isFresh s.pipeline.machine.state then s.pipeline.machine
    else s.pipeline.machine.reset
  { s with pipeline := { s.pipeline with machine }, outcome := none, outputPath := none }

def report (s : Session) (error : Option Fault) : RunReport where
  ok := error.isNone
  state := s.pipeline.machine.state
  output := if error.isNone then outputOf s.pipeline.machine.state else none
  outputPath := s.outputPath
  outcome := s.outcome
  error := error

/-- Runs the pipeline and reports; nothing is thrown. -/
def run (s : Session) : RunReport × Session :=
  match phases.run s.ready with
  | (.ok _, s) => (s.report none, s)
  | (.error e, s) =>
    let (_, s) := (conclude e).run s
    (s.report (some (e.toFault none)), s)

end Session
end Quire
