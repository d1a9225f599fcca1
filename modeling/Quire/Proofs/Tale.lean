import Quire.Proofs.Run

/-! A run told without its machine. What is done between the events neither looks at
the machine nor at the journal, so a session without the two tells how each stretch of
a run ends; `Tells` follows a run and its tale side by side, and in the end the report,
the history and what is left of the session are those of the tale. -/

namespace Quire

namespace Session

/-- A session without its machine and its journal. -/
def bare (s : Session) : Session :=
  { s with journal := [], pipeline := { s.pipeline with machine := {} } }

end Session

namespace Work

variable {α β : Type}

/-- Work that neither looks at the machine nor at the journal, and spares the machine. -/
structure Plain (x : Work α) : Prop where
  spares : Spares x
  result : ∀ s, (x.run s).1 = (x.run s.bare).1
  left : ∀ s, (x.run s).2.bare = (x.run s.bare).2.bare

theorem Plain.bind {x : Work α} {f : α → Work β} (hx : Plain x) (hf : ∀ a, Plain (f a)) :
    Plain (x >>= f) where
  spares := hx.spares.bind fun a => (hf a).spares
  result s := by
    rw [run_bind, run_bind, hx.result s]
    cases (x.run s.bare).1 with
    | error e => rfl
    | ok a =>
      change ((f a).run (x.run s).2).1 = ((f a).run (x.run s.bare).2).1
      rw [(hf a).result, hx.left s, ← (hf a).result]
  left s := by
    rw [run_bind_snd, run_bind_snd, hx.result s]
    cases (x.run s.bare).1 with
    | error e => exact hx.left s
    | ok a =>
      change ((f a).run (x.run s).2).2.bare = ((f a).run (x.run s.bare).2).2.bare
      rw [(hf a).left, hx.left s, ← (hf a).left]

theorem plain_pure (a : α) : Plain (pure a : Work α) := ⟨spares_pure a, fun _ => rfl, fun _ => rfl⟩

/-- The session may be looked at, except for its machine and its journal. -/
theorem Plain.get_bind {f : Session → Work β} (hf : ∀ s, Plain (f s))
    (unseen : ∀ s, f s = f s.bare) : Plain (get >>= f) where
  spares := spares_get.bind fun s => (hf s).spares
  result s := by
    rw [run_get, run_get, ← unseen s]
    exact (hf s).result s
  left s := by
    rw [run_get, run_get, ← unseen s]
    exact (hf s).left s

theorem plain_ofOutcome (r : Outcome α) : Plain (ofOutcome r) :=
  ⟨spares_ofOutcome r, fun _ => rfl, fun _ => rfl⟩

theorem plain_say (c : Channel) (severity : Severity) (text : String) :
    Plain (say c severity text) := ⟨spares_say c severity text, fun _ => rfl, fun _ => rfl⟩

theorem plain_tryOut (c : Channel) (a : Attempt α) : Plain (tryOut c a) :=
  ⟨spares_tryOut c a, fun _ => rfl, fun _ => rfl⟩

theorem plain_gauged (use : Gauges → Outcome α × Gauges) : Plain (gauged use) :=
  ⟨spares_gauged use, fun _ => rfl, fun _ => rfl⟩

theorem plain_traced (use : Gauges → Trace Gauges α) : Plain (traced use) :=
  ⟨spares_traced use, fun _ => rfl, fun _ => rfl⟩

theorem plain_modify {change : Session → Session}
    (same : ∀ s, (change s).pipeline.machine = s.pipeline.machine)
    (unseen : ∀ s, (change s).bare = (change s.bare).bare) : Plain (modify change : Work Unit) :=
  ⟨spares_modify same, fun _ => rfl, unseen⟩

theorem plain_onPipeline {change : Pipeline → Pipeline}
    (same : ∀ p, (change p).machine = p.machine)
    (unseen : ∀ s : Session, { s with pipeline := change s.pipeline }.bare =
      { s.bare with pipeline := change s.bare.pipeline }.bare) : Plain (onPipeline change) :=
  ⟨spares_onPipeline same, fun _ => rfl, unseen⟩

end Work

/-! ### The work of each phase -/

namespace Pipeline

open Work

theorem plain_execute (m : Monitor) (strategy : Strategy) (work : String → Attempt Document)
    (files : List String) : Plain (execute m strategy work files) := by
  unfold execute
  split
  · exact plain_pure _
  · split
    · exact .get_bind (fun _ => plain_traced _) fun _ => rfl
    · exact plain_traced _

theorem plain_processDocuments (files : List String) (rules : Option RuleSet)
    (bounds : Option Bounds) (options : Option ProcessingConfig) :
    Plain (processDocuments files rules bounds options) := by
  refine .get_bind (fun s => ?_) fun _ => rfl
  dsimp only
  split
  · refine (plain_ofOutcome _).bind fun bounds => (plain_gauged _).bind fun monitor =>
      (plain_tryOut _ _).bind fun strategy => (plain_say _ _ _).bind fun _ =>
      (plain_ofOutcome _).bind fun flatten => .get_bind (fun s => ?_) fun _ => rfl
    exact (plain_execute _ _ _ _).bind fun done => (plain_tryOut _ _).bind fun made =>
      (plain_tryOut _ _).bind fun _ => plain_pure _
  · exact plain_ofOutcome _

theorem plain_loadSchema : Plain loadSchema := by
  refine .get_bind (fun s => ?_) fun _ => rfl
  split
  · exact plain_pure _
  · refine (plain_tryOut _ _).bind fun _ => ?_
    refine .bind (plain_onPipeline (fun _ => rfl) fun _ => rfl) fun _ => ?_
    exact plain_pure _

theorem plain_listFiles : Plain listFiles := by
  refine .get_bind (fun s => ?_) fun _ => rfl
  refine (plain_ofOutcome _).bind fun _ => ?_
  refine (plain_tryOut _ _).bind fun _ => ?_
  exact (plain_say _ _ _).bind fun _ => plain_pure _

theorem plain_renderWith (template : Option Template) (data format : Value) :
    Plain (renderWith template data format) := by
  unfold renderWith
  split
  · exact .get_bind (fun _ => plain_ofOutcome _) fun _ => rfl
  · exact plain_ofOutcome _

theorem writeOutput_run (text path : String) (s : Session) : (writeOutput text path).run s =
    match s.pipeline.renderer.write s.tree text path with
    | (tree, .ok written) =>
      (.ok (), { s with
        tree, outputPath := some written
        journal := s.journal ++ [⟨.pipeline, .info, "Wrote output to " ++ written⟩] })
    | (tree, .error e) => (.error e, { s with tree }) := by
  unfold writeOutput
  rw [run_get]
  rcases s.pipeline.renderer.write s.tree text path with ⟨tree, e | written⟩ <;> rfl

theorem plain_writeOutput (text path : String) : Plain (writeOutput text path) := by
  have unseen (s : Session) : s.bare.pipeline.renderer.write s.bare.tree text path =
    s.pipeline.renderer.write s.tree text path := rfl
  refine ⟨spares_writeOutput text path, fun s => ?_, fun s => ?_⟩ <;>
  · rw [writeOutput_run, writeOutput_run, unseen]
    rcases s.pipeline.renderer.write s.tree text path with ⟨tree, e | written⟩ <;> rfl

/-- What the files come to under the rules of a mode. -/
def digest (schema : Schema) (mode : Value) (files : List String) : Work Entries := do
  let rules ← ofOutcome (rulesIn schema mode)
  let outcome ← processDocuments files rules none none
  modify fun s => { s with outcome := some outcome }
  return outcome.data

def loadTemplate (path : Option String) : Work (Option Template) :=
  path.mapM fun path => do
    let s ← get
    tryOut .rendering (s.pipeline.renderer.load s.tree path)

/-- The finished text, which is written if there is a place for it. -/
def express (template : Option Template) (output : OutputConfig) (data : Value) :
    Work String := do
  let text ← renderWith template data output.format
  if output.path.truthy then writeOutput text output.path.plain
  return text

/-- The reading that a run is closed with. -/
def measure : Work Binary64 := gauged fun g => (g.megabytes, g.readMemory.2)

theorem plain_digest (schema : Schema) (mode : Value) (files : List String) :
    Plain (digest schema mode files) := by
  refine (plain_ofOutcome _).bind fun rules => ?_
  refine (plain_processDocuments _ _ _ _).bind fun outcome => ?_
  refine .bind (plain_modify (fun _ => rfl) fun _ => rfl) fun _ => ?_
  exact plain_pure _

theorem plain_loadTemplate (path : Option String) : Plain (loadTemplate path) := by
  cases path with
  | none => exact plain_pure none
  | some path =>
    refine Plain.bind ?_ fun t => plain_pure _
    exact .get_bind (fun _ => plain_tryOut _ _) fun _ => rfl

theorem plain_express (template : Option Template) (output : OutputConfig) (data : Value) :
    Plain (express template output data) := by
  refine (plain_renderWith template data output.format).bind fun text => ?_
  dsimp only
  split
  · exact (plain_writeOutput _ _).bind fun _ => plain_pure _
  · exact plain_pure _

end Pipeline

/-! ### The tale -/

/-- Where a run stopped short, of what, and what it left. -/
structure Stop where
  phase : RunState.Kind
  cause : Failure
  left : Session

/-- A stretch of a run as the session tells it without a machine. -/
abbrev Leg := StateT Session (Except Stop)

/-- Work that is done in one phase of a run. -/
def Work.within {α : Type} (x : Work α) (phase : RunState.Kind) : Leg α := fun s =>
  match x.run s with
  | (.ok a, t) => .ok (a, t.bare)
  | (.error e, t) => .error ⟨phase, e, t.bare⟩

section

variable {α β : Type} {s t : Session} {x : Work α} {l : Leg α} {a : α} {e : Failure}

theorem Work.within_ok (came : x.run s = (.ok a, t)) (phase : RunState.Kind) :
    x.within phase s = .ok (a, t.bare) := by
  unfold within
  rw [came]

theorem Work.within_error (failed : x.run s = (.error e, t)) (phase : RunState.Kind) :
    x.within phase s = .error ⟨phase, e, t.bare⟩ := by
  unfold within
  rw [failed]

namespace Leg

theorem bind_ok (came : l s = .ok (a, t)) (f : α → Leg β) : (l >>= f) s = f a t := by
  change (l s).bind (fun r => f r.1 r.2) = _
  rw [came]
  rfl

theorem bind_error {stop : Stop} (failed : l s = .error stop) (f : α → Leg β) :
    (l >>= f) s = .error stop := by
  change (l s).bind (fun r => f r.1 r.2) = _
  rw [failed]
  rfl

end Leg

end

/-- The mode that settings ask for once they were checked. -/
def Config.chosenMode (c : Config) : Mode := (Mode.ofValue c.mode).toOption.getD .full

namespace Pipeline

open Work

/-- From the schema to checked data. -/
def survey (config : Config) : Leg (Schema × Entries) := do
  let schema ← loadSchema.within .loadingSchema
  let files ← listFiles.within .schemaLoaded
  let data ← (digest schema config.mode files).within .parsingFrontmatter
  return (schema, data)

/-- What a run has for output; in validation mode nothing is rendered. -/
def rendering (config : Config) (output : OutputConfig) (path : Option String) (data : Value) :
    Leg String :=
  if config.chosenMode = .validationOnly then pure RunState.validationOutput
  else do
    let template ← (loadTemplate path).within .loadingTemplate
    (express template output data).within .generatingOutput

/-- From checked data to the text that is the output. -/
def deliver (config : Config) (schema : Schema) (data : Entries) : Leg String := do
  let output ← (ofOutcome (config.output.get "template_path" : Except Mishap _)).within
    .dataValidated
  let path ← (ofOutcome (templatePath output schema : Except Mishap _)).within .dataValidated
  let text ← rendering config output path (.map data)
  let _ ← measure.within .outputGenerated
  return text

def recount (config : Config) : Leg String := do
  let (schema, data) ← survey config
  deliver config schema data

/-- A run from a state in which it can begin. -/
def tale (start : RunState.Kind) : Leg String := do
  checkConfig.within start
  recount (← get).pipeline.config

/-- The phases of a run from the first event on. -/
def stages (config : Config) : Work RunState := do
  discard <| transition (.loadSchema (.value config.schemaPath.toText))
  let schema ← loadSchema
  discard <| transition (.schemaLoadComplete (.schema schema))
  let data ← gather schema config.mode
  let output ← ofOutcome (config.output.get "template_path" : Except Mishap _)
  let path ← ofOutcome (templatePath output schema : Except Mishap _)
  if let .loadingTemplate _ _ _ _ ← transition (.loadTemplate (.value (.str (path.getD "")))) then
    produce output path (.map data)
  transition .complete

theorem phases_eq : phases = (do
    checkConfig
    enter
    stages (← get).pipeline.config) := rfl

end Pipeline
end Quire
