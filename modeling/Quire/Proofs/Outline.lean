import Quire.Proofs.Legs

/-! A run in outline. Its parts are functions of the session: the survey of the files, the
text that comes of it, the closing of the run; and of the files outside only the one that
the text is put to is ever touched. -/

namespace Quire
namespace Pipeline

open Work

variable (s : Session) (k : RunState.Kind)

/-- A session in which the files have come to something. -/
def surveyed (schema : Schema) (o : ProcessingOutcome) (g : Gauges) (s : Session) : Session :=
  { (knowing schema s).bare with gauges := g, outcome := some o }

theorem survey_eq (config : Config) : survey config s =
    match found s with
    | .error e => .error ⟨.loadingSchema, e, s.bare⟩
    | .ok schema => match listed s with
      | .error e => .error ⟨.schemaLoaded, e, (knowing schema s).bare⟩
      | .ok files => match digested schema config.mode files (knowing schema s) with
        | (.error e, g) =>
          .error ⟨.parsingFrontmatter, e, { (knowing schema s).bare with gauges := g }⟩
        | (.ok o, g) => .ok ((schema, o.data), surveyed schema o g s) := by
  have known := loadSchema_within s .loadingSchema
  unfold survey
  generalize found s = r at known ⊢
  cases r with
  | error e => rw [Leg.bind_error known]
  | ok schema =>
    rw [Leg.bind_ok known]
    have looked := comes_listFiles (knowing schema s).bare
    change Comes _ _ (listed s, _) at looked
    dsimp only
    generalize listed s = r at looked ⊢
    cases r with
    | error e =>
      rw [Leg.bind_error (looked.within_error .schemaLoaded)]
      rfl
    | ok files =>
      have stays : listFiles.within .schemaLoaded (knowing schema s).bare =
          .ok (files, (knowing schema s).bare) := looked.within_ok .schemaLoaded
      rw [Leg.bind_ok stays]
      have read :=
        digest_within (knowing schema s).bare .parsingFrontmatter schema config.mode files
      have same : digested schema config.mode files (knowing schema s).bare =
        digested schema config.mode files (knowing schema s) := rfl
      rw [same] at read
      dsimp only
      generalize digested schema config.mode files (knowing schema s) = r at read ⊢
      obtain ⟨e | o, g⟩ := r
      · rw [Leg.bind_error read]
        rfl
      · rw [Leg.bind_ok read]
        rfl

/-- What a run has for output, if anything is rendered in its mode, and the session after it. -/
def texted (config : Config) (output : OutputConfig) (path : Option String) (data : Value) :
    Except Stop (String × Session) :=
  if config.chosenMode = .validationOnly then .ok (RunState.validationOutput, s)
  else match template path s with
    | .error e => .error ⟨.loadingTemplate, e, s⟩
    | .ok t => match rendered t output data s with
      | .error e => .error ⟨.generatingOutput, e, s⟩
      | .ok text => match written output text s with
        | (.error e, u) => .error ⟨.generatingOutput, e, u⟩
        | (.ok (), u) => .ok (text, u)

/-- The end of a run, at which memory is read once more. -/
def rounded (text : String) : Except Stop (String × Session) :=
  let left := { s with gauges := s.gauges.readMemory.2 }
  match s.gauges.megabytes with
  | .error e => .error ⟨.outputGenerated, e, left⟩
  | .ok _ => .ok (text, left)

theorem rendering_eq (config : Config) (output : OutputConfig) (path : Option String)
    (data : Value) : rendering config output path data s.bare =
      texted s.bare config output path data := by
  unfold rendering texted
  split
  · rfl
  · have loaded := comes_loadTemplate s.bare path
    generalize template path s.bare = r at loaded ⊢
    cases r with
    | error e => rw [Leg.bind_error (loaded.within_error .loadingTemplate)]; rfl
    | ok t =>
      rw [Leg.bind_ok (loaded.within_ok .loadingTemplate)]
      change (express t output data).within .generatingOutput s.bare = _
      rw [express_within]
      dsimp only
      cases rendered t output data s.bare with
      | error e => rfl
      | ok text =>
        dsimp only
        unfold written
        cases output.path.truthy with
        | false => rfl
        | true =>
          simp only [if_true]
          rcases s.bare.pipeline.renderer.write s.bare.tree text output.path.plain with
            ⟨tree, e | place⟩ <;> rfl

theorem close_eq (text : String) :
    (measure.within .outputGenerated >>= fun _ => (pure text : Leg String)) s.bare =
      rounded s.bare text := by
  have read : Comes measure s.bare (s.gauges.megabytes, s.gauges.readMemory.2) := comes_gauged _
  unfold rounded
  change _ = match s.gauges.megabytes with
    | .error e => _
    | .ok _ => _
  generalize s.gauges.megabytes = r at read ⊢
  cases r with
  | error e =>
    rw [Leg.bind_error (read.within_error .outputGenerated)]
    rfl
  | ok memory =>
    rw [Leg.bind_ok (read.within_ok .outputGenerated)]
    rfl

theorem lift_within {α : Type} (r : Except Mishap α) :
    (ofOutcome (r : Outcome α)).within k s.bare =
    match r with
    | .error m => .error ⟨k, .mishap m, s.bare⟩
    | .ok a => .ok (a, s.bare) := by
  cases r <;> rfl

theorem written_bare (output : OutputConfig) (text : String) :
    (written output text s.bare).2.bare = (written output text s.bare).2 := by
  unfold written
  split
  · rcases s.bare.pipeline.renderer.write s.bare.tree text output.path.plain with
      ⟨tree, e | place⟩ <;> rfl
  · rfl

theorem texted_bare {config : Config} {output : OutputConfig} {path : Option String} {data : Value}
    {text : String} {u : Session} (made : texted s.bare config output path data = .ok (text, u)) :
    u.bare = u := by
  unfold texted at made
  split at made
  · cases made
    rfl
  · split at made
    · cases made
    · split at made
      · cases made
      · next text' _ =>
        split at made
        · cases made
        · next v done =>
          cases made
          have bare := written_bare s output text
          rwa [done] at bare

/-- The places that settings and schema have for the output and its template. -/
def places (config : Config) (schema : Schema) :
    Except Mishap (OutputConfig × Option String) := do
  let output ← config.output.get "template_path"
  let path ← templatePath output schema
  return (output, path)

theorem deliver_eq (config : Config) (schema : Schema) (data : Entries) :
    deliver config schema data s.bare =
    match places config schema with
    | .error m => .error ⟨.dataValidated, .mishap m, s.bare⟩
    | .ok (output, path) => match texted s.bare config output path (.map data) with
      | .error stop => .error stop
      | .ok (text, u) => rounded u text := by
  have given := lift_within s .dataValidated (config.output.get "template_path")
  unfold deliver places
  generalize config.output.get "template_path" = r at given ⊢
  cases r with
  | error m =>
    rw [Leg.bind_error given]
    rfl
  | ok output =>
    rw [Leg.bind_ok given]
    have found := lift_within s .dataValidated (templatePath output schema)
    dsimp only [bind, Except.bind]
    generalize templatePath output schema = r at found ⊢
    cases r with
    | error m => exact Leg.bind_error found _
    | ok path =>
      refine (Leg.bind_ok found _).trans ?_
      have made := rendering_eq s config output path (.map data)
      change _ = match texted s.bare config output path (.map data) with
        | .error stop => _
        | .ok (text, u) => _
      cases put : texted s.bare config output path (.map data) with
      | error stop =>
        rw [put] at made
        exact Leg.bind_error made _
      | ok r =>
        obtain ⟨text, u⟩ := r
        rw [put] at made
        refine (Leg.bind_ok made _).trans ?_
        have closed := close_eq u text
        rwa [texted_bare s put] at closed

theorem recount_eq (config : Config) : recount config s =
    match survey config s with
    | .error stop => .error stop
    | .ok ((schema, data), u) => deliver config schema data u := by
  change (survey config >>= fun p => deliver config p.1 p.2) s = _
  cases surveyed : survey config s with
  | error stop => exact Leg.bind_error surveyed _
  | ok r => exact Leg.bind_ok surveyed _

theorem tale_eq (start : RunState.Kind) : tale start s.bare =
    match s.pipeline.config.validate with
    | (config, .error e) =>
      .error ⟨start, e, { s.bare with pipeline := { s.bare.pipeline with config } }⟩
    | (config, .ok _) => recount config (settled config s.bare) := by
  have checked := checkConfig_run s.bare
  rw [show s.bare.pipeline.config = s.pipeline.config from rfl] at checked
  unfold tale
  generalize s.pipeline.config.validate = r at checked ⊢
  obtain ⟨config, e | ⟨⟩⟩ := r
  · exact Leg.bind_error (within_error checked start) _
  · exact Leg.bind_ok (within_ok checked start) _

/-! ### What becomes of the files outside -/

/-- The text of a run was rendered, and there is a place for it. -/
structure Put (config : Config) (output : OutputConfig) (path : Option String) (data : Value)
    (s : Session) (text : String) : Prop where
  renders : config.chosenMode ≠ .validationOnly
  made : ∃ t, template path s = .ok t ∧ rendered t output data s = .ok text
  asked : output.path.truthy = true

/-- How a run can come by its text, and what it leaves of the session then. -/
inductive Texted (config : Config) (output : OutputConfig) (path : Option String) (data : Value)
    (s : Session) : Except Stop (String × Session) → Prop
  | stopped {phase : RunState.Kind} (late : phase = .loadingTemplate ∨ phase = .generatingOutput)
    (e : Failure) : Texted config output path data s (.error ⟨phase, e, s⟩)
  | kept (text : String) : Texted config output path data s (.ok (text, s))
  | refused {text : String} (put : Put config output path data s text) {tree : FileTree}
    {e : Failure} (wrote : s.pipeline.renderer.write s.tree text output.path.plain =
      (tree, .error e)) :
    Texted config output path data s (.error ⟨.generatingOutput, e, { s with tree }⟩)
  | wrote {text : String} (put : Put config output path data s text) {tree : FileTree}
    {place : String} (wrote : s.pipeline.renderer.write s.tree text output.path.plain =
      (tree, .ok place)) :
    Texted config output path data s (.ok (text, { s with tree, outputPath := some place }))

theorem texted_cases (config : Config) (output : OutputConfig) (path : Option String)
    (data : Value) : Texted config output path data s (texted s config output path data) := by
  unfold texted
  split
  · exact .kept _
  · next renders =>
    split
    · exact .stopped (.inl rfl) _
    · next t loaded =>
      split
      · exact .stopped (.inr rfl) _
      · next text filled =>
        cases asked : output.path.truthy with
        | false =>
          simp only [written, asked, Bool.false_eq_true, if_false]
          exact .kept text
        | true =>
          have put : Put config output path data s text := ⟨renders, ⟨t, loaded, filled⟩, asked⟩
          simp only [written, asked, if_true]
          rcases came : s.pipeline.renderer.write s.tree text output.path.plain with
            ⟨tree, e | place⟩
          · exact .refused put came
          · exact .wrote put came

theorem remains_rounded (text : String) :
    remains (rounded s text) = { s with gauges := s.gauges.readMemory.2 } := by
  unfold rounded
  dsimp only
  split <;> rfl

/-- Nothing that comes after the files were read changes what they have come to. -/
structure Delivered (s left : Session) : Prop where
  outcome : left.outcome = s.outcome
  pipeline : left.pipeline = s.bare.pipeline
  finishing : left.finishing = s.finishing
  gauges : left.gauges = s.gauges ∨ left.gauges = s.gauges.readMemory.2

theorem delivered (config : Config) (schema : Schema) (data : Entries) :
    Delivered s (remains (deliver config schema data s.bare)) := by
  have closes {u : Session} (text : String) (outcome : u.outcome = s.outcome)
      (pipeline : u.pipeline = s.bare.pipeline) (finishing : u.finishing = s.finishing)
      (gauges : u.gauges = s.gauges) : Delivered s (remains (rounded u text)) := by
    rw [remains_rounded]
    exact ⟨outcome, pipeline, finishing, .inr (congrArg (·.readMemory.2) gauges)⟩
  rw [deliver_eq]
  cases places config schema with
  | error m => exact ⟨rfl, rfl, rfl, .inl rfl⟩
  | ok r =>
    obtain ⟨output, path⟩ := r
    have came := texted_cases s.bare config output path (.map data)
    dsimp only
    generalize texted s.bare config output path (.map data) = r at came ⊢
    cases came with
    | stopped late e => exact ⟨rfl, rfl, rfl, .inl rfl⟩
    | kept text => exact closes text rfl rfl rfl rfl
    | refused put wrote => exact ⟨rfl, rfl, rfl, .inl rfl⟩
    | wrote put wrote => exact closes _ rfl rfl rfl rfl

theorem survey_eq_ok {config : Config} {p : Schema × Entries} {u : Session}
    (came : survey config s = .ok (p, u)) :
    found s = .ok p.1 ∧ ∃ o g, p.2 = o.data ∧ u = surveyed p.1 o g s := by
  rw [survey_eq] at came
  split at came
  · cases came
  · next known =>
    split at came
    · cases came
    · split at came
      · cases came
      · next o g _ =>
        cases came
        exact ⟨known, o, g, rfl, rfl⟩

theorem survey_early {config : Config} {stop : Stop} (failed : survey config s = .error stop) :
    stop.phase ∈ [.loadingSchema, .schemaLoaded, .parsingFrontmatter] := by
  rw [survey_eq] at failed
  split at failed
  · cases failed
    simp
  · split at failed
    · cases failed
      simp
    · split at failed
      · cases failed
        simp
      · cases failed

theorem deliver_late {config : Config} {schema : Schema} {data : Entries} {stop : Stop}
    (failed : deliver config schema data s.bare = .error stop) :
    stop.phase ∈ [.dataValidated, .loadingTemplate, .generatingOutput, .outputGenerated] := by
  have last (u : Session) (text : String) (failed : rounded u text = .error stop) :
      stop.phase = .outputGenerated := by
    unfold rounded at failed
    dsimp only at failed
    split at failed
    · cases failed
      rfl
    · cases failed
  rw [deliver_eq] at failed
  split at failed
  · cases failed
    simp
  · next output path _ =>
    have came := texted_cases s.bare config output path (.map data)
    generalize texted s.bare config output path (.map data) = r at came failed
    cases came with
    | stopped late e =>
      cases failed
      rcases late with rfl | rfl <;> simp
    | kept text =>
      rw [last _ _ failed]
      decide
    | refused put wrote =>
      cases failed
      simp
    | wrote put wrote =>
      rw [last _ _ failed]
      decide

/-- If a run has an outcome to show, it is what the files that it found came to under the rules of
its mode. -/
theorem recount_outcome {config : Config} {o : ProcessingOutcome} (fresh : s.outcome = none)
    (came : (remains (recount config s)).outcome = some o) :
    ∃ schema files g, found s = .ok schema ∧ listed s = .ok files ∧
      digested schema config.mode files (knowing schema s) = (.ok o, g) := by
  rw [recount_eq, survey_eq] at came
  cases known : found s with
  | error e =>
    rw [known] at came
    exact nomatch fresh.symm.trans came
  | ok schema =>
    rw [known] at came
    cases looked : listed s with
    | error e =>
      rw [looked] at came
      exact nomatch fresh.symm.trans came
    | ok files =>
      rw [looked] at came
      dsimp only at came
      rcases read : digested schema config.mode files (knowing schema s) with ⟨e | o', g⟩
      · rw [read] at came
        exact nomatch fresh.symm.trans came
      · rw [read] at came
        have kept := (delivered (surveyed schema o' g s) config schema o'.data).outcome
        obtain rfl : o' = o := Option.some.inj (kept.symm.trans came)
        exact ⟨schema, files, g, rfl, rfl, read⟩

end Pipeline
end Quire
