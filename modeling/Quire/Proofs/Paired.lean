import Quire.Proofs.Outline

/-! Two runs side by side. Where their gauges read alike, and each file comes to the same,
or fails in a way that the first run does not tell of, processing comes to the same; and
stretches that end alike one after the other end alike as a whole. -/

namespace Quire

namespace Gauges

/-- Gauges that answer alike, however often they are read. -/
structure Paired (R : Gauges → Gauges → Prop) : Prop where
  memory : ∀ g h, R g h → g.readMemory.1 = h.readMemory.1 ∧ R g.readMemory.2 h.readMemory.2
  clock : ∀ g h, R g h → g.readClock.1 = h.readClock.1 ∧ R g.readClock.2 h.readClock.2

theorem paired_eq : Paired (· = ·) where
  memory _ _ same := same ▸ ⟨rfl, rfl⟩
  clock _ _ same := same ▸ ⟨rfl, rfl⟩

/-- Gauges that always read the same. -/
structure Steady (memory : Outcome Value) (time : Value) (g : Gauges) : Prop where
  memory : ∀ k, g.memory.reading k = memory
  clock : ∀ k, g.clock.reading k = time

theorem steady_still : still.Steady (.ok (.int 52428800)) (.int 0) :=
  ⟨fun _ => rfl, fun _ => rfl⟩

theorem paired_steady (memory : Outcome Value) (time : Value) :
    Paired fun g h => g.Steady memory time ∧ h.Steady memory time where
  memory _ _ := fun ⟨one, two⟩ => ⟨(one.memory _).trans (two.memory _).symm,
    ⟨one.memory, one.clock⟩, two.memory, two.clock⟩
  clock _ _ := fun ⟨one, two⟩ => ⟨(one.clock _).trans (two.clock _).symm,
    ⟨one.memory, one.clock⟩, two.memory, two.clock⟩

variable {R : Gauges → Gauges → Prop} {g h : Gauges}

theorem Paired.take (paired : Paired R) (gh : R g h) :
    (Snapshot.take g).1 = (Snapshot.take h).1 ∧ R (Snapshot.take g).2 (Snapshot.take h).2 := by
  obtain ⟨read, after⟩ := paired.memory g h gh
  obtain ⟨time, later⟩ := paired.clock _ _ after
  simp only [Snapshot.take, read, time]
  split
  · exact ⟨rfl, after⟩
  · exact ⟨rfl, later⟩

theorem Paired.create (paired : Paired R) (gh : R g h) (b : Bounds) :
    (Monitor.create b g).1 = (Monitor.create b h).1 ∧
      R (Monitor.create b g).2 (Monitor.create b h).2 := by
  obtain ⟨start, after⟩ := paired.clock g h gh
  obtain ⟨taken, later⟩ := paired.take after
  simp only [Monitor.create, start, taken]
  exact ⟨trivial, later⟩

theorem Paired.watch (paired : Paired R) (m : Monitor) : m.watch.Alike R where
  check n g h gh := by
    obtain ⟨taken, later⟩ := paired.take gh
    simp only [Monitor.watch, Monitor.check, taken]
    exact ⟨trivial, later⟩
  growth n g h gh := by
    obtain ⟨taken, later⟩ := paired.take gh
    simp only [Monitor.watch, Monitor.growth, Bounds.countOf, Value.number?]
    split
    · exact ⟨rfl, gh⟩
    · simp only [taken]
      exact ⟨trivial, later⟩

end Gauges

namespace Pipeline

open Execution

variable {R : Gauges → Gauges → Prop} {bad : Fault → Prop}

theorem executed_alike (paired : Gauges.Paired R) {g h : Gauges} (gh : R g h)
    {work work' : String → Attempt Document} {files : List String}
    (agree : ∀ path ∈ files, Agrees bad work work' path) {order : Pool.Finishing} {m : Monitor}
    {strategy : Strategy} (clean : Clean bad (executed order m strategy work files g).1) :
    (executed order m strategy work' files h).1 = (executed order m strategy work files g).1 ∧
      R (executed order m strategy work files g).2 (executed order m strategy work' files h).2 := by
  unfold executed at clean ⊢
  cases some' : files.isEmpty with
  | true => exact ⟨rfl, gh⟩
  | false =>
    cases parallel : strategy.parallel with
    | true =>
      simp only [some', parallel, if_true, Bool.false_eq_true, if_false] at clean ⊢
      exact parallel_alike (paired.watch m) order strategy.workers gh agree clean
    | false =>
      simp only [some', parallel, Bool.false_eq_true, if_false] at clean ⊢
      exact sequential_alike (paired.watch m) gh agree clean

/-- What a file is worked on with. -/
def workOf (s : Session) (rules : Option RuleSet) (flatten : List String) (path : String) :
    Attempt Document :=
  (s.pipeline.intake s.tree flatten).process rules (.str path)

/-- Two sessions in which files are gone through in the same way. -/
structure Akin (R : Gauges → Gauges → Prop) (s t : Session) : Prop where
  schema : t.pipeline.schema = s.pipeline.schema
  bounds : t.pipeline.config.bounds = s.pipeline.config.bounds
  processing : t.pipeline.config.processing = s.pipeline.config.processing
  profile : t.pipeline.profile = s.pipeline.profile
  finishing : t.finishing = s.finishing
  gauges : R s.gauges t.gauges

/-- What is told at the end was told of the files. -/
theorem clean_finished {schema : Schema} {strategy : Strategy} {count : Nat}
    {done : Outcome (Execution Document)}
    (clean : (∀ f, ¬bad f) ∨ ∃ o, finished schema strategy count done = .ok o ∧
      ∀ f ∈ o.errors, ¬bad f) : Clean bad done := by
  rcases clean with none' | ⟨o, came, clear⟩
  · exact .inl none'
  · obtain ⟨_, _, e, gone, _, told⟩ := finished_eq_ok came
    exact .inr ⟨e, gone, told ▸ clear⟩

theorem processed_alike (paired : Gauges.Paired R) {s t : Session} (akin : Akin R s t)
    {files : List String} {rules rules' : Option RuleSet}
    (agree : ∀ schema flatten, s.pipeline.schema = some schema →
      schema.flattenPaths = .ok flatten → ∀ path ∈ files,
        Agrees bad (workOf s rules flatten) (workOf t rules' flatten) path)
    {bounds : Option Bounds} {options : Option ProcessingConfig}
    (clean : (∀ f, ¬bad f) ∨ ∃ o, (processed s files rules bounds options).1 = .ok o ∧
      ∀ f ∈ o.errors, ¬bad f) :
    (processed t files rules' bounds options).1 = (processed s files rules bounds options).1 ∧
      R (processed s files rules bounds options).2 (processed t files rules' bounds options).2 := by
  have limits : t.pipeline.boundsFor files.length bounds =
      s.pipeline.boundsFor files.length bounds := by
    simp only [boundsFor, akin.bounds]
  have choice : t.pipeline.strategyFor files.length options =
      s.pipeline.strategyFor files.length options := by
    simp only [strategyFor, akin.processing, akin.profile]
  unfold processed at clean ⊢
  rw [akin.schema, limits, choice, akin.finishing]
  cases known : s.pipeline.schema with
  | none => exact ⟨rfl, akin.gauges⟩
  | some schema =>
    rw [known] at clean
    dsimp only at clean ⊢
    cases resolved : s.pipeline.boundsFor files.length bounds with
    | error e => exact ⟨rfl, akin.gauges⟩
    | ok b =>
      rw [resolved] at clean
      dsimp only at clean ⊢
      obtain ⟨begun, after⟩ := paired.create akin.gauges b
      rcases created : Monitor.create b s.gauges with ⟨e | m, g⟩
      · rcases created' : Monitor.create b t.gauges with ⟨r, g'⟩
        rw [created, created'] at begun after
        obtain rfl : Except.error e = r := begun
        exact ⟨rfl, after⟩
      · rcases created' : Monitor.create b t.gauges with ⟨r, g'⟩
        rw [created, created'] at begun after
        obtain rfl : Except.ok m = r := begun
        rw [created] at clean
        dsimp only at clean ⊢
        cases chosen : (s.pipeline.strategyFor files.length options).result with
        | error e => exact ⟨rfl, after⟩
        | ok strategy =>
          rw [chosen] at clean
          dsimp only at clean ⊢
          cases flat : schema.flattenPaths with
          | error e => exact ⟨rfl, after⟩
          | ok flatten =>
            rw [flat] at clean
            dsimp only at clean ⊢
            obtain ⟨same, later⟩ := executed_alike paired after (agree schema flatten known flat)
              (clean_finished clean)
            exact ⟨congrArg (finished schema strategy files.length) same, later⟩

theorem digested_steady {memory : Outcome Value} {time : Value} {s : Session}
    (steady : s.gauges.Steady memory time) (schema : Schema) (mode : Value) (files : List String) :
    (digested schema mode files s).2.Steady memory time := by
  unfold digested
  split
  · exact steady
  · next rules _ =>
    have akin : Akin (fun g h => g.Steady memory time ∧ h.Steady memory time) s s :=
      ⟨rfl, rfl, rfl, rfl, rfl, steady, steady⟩
    have agree (schema : Schema) (flatten : List String) (_ : s.pipeline.schema = some schema)
        (_ : schema.flattenPaths = .ok flatten) : ∀ path ∈ files,
        Agrees (fun _ => False) (workOf s rules flatten) (workOf s rules flatten) path :=
      fun path _ => .inl rfl
    exact (processed_alike (Gauges.paired_steady memory time) akin agree (.inl fun _ => id)).2.1

end Pipeline

/-- What becomes of a file, without the notes on the way. -/
theorem Intake.process_result (i : Intake) (rules : Option RuleSet) (path : Value) :
    (i.process rules path).result = (do
      let path ← Document.checkPath i.suffixes path
      let text ← i.read path
      let found ← i.extract text path
      let metadata ← (flattenAll i.flatten found.metadata : Except Mishap _)
      validate rules metadata path
      return ⟨path, metadata, found.body⟩) := by
  have step {α β : Type} (x : Attempt α) (f : α → Attempt β) :
      (x >>= f).result = x.result >>= fun a => (f a).result := Attempt.result_bind x f
  unfold process
  rw [step]
  refine congrArg₂ _ rfl (funext fun path => ?_)
  rw [step]
  change ((liftM (i.read path) : Attempt _) >>= _).result = _
  rw [step]
  refine congrArg₂ _ rfl (funext fun text => ?_)
  unfold fromText
  rw [step]
  refine congrArg₂ _ rfl (funext fun found => ?_)
  rw [step]
  change ((liftM (flattenAll i.flatten found.metadata : Except Mishap _) : Attempt _) >>= _).result
    = _
  rw [step]
  refine congrArg₂ _ rfl (funext fun metadata => ?_)
  rw [step]
  exact congrArg₂ _ rfl (funext fun _ => rfl)

/-! ### Stretches that end alike -/

/-- Sessions that show the same of what a run has come to. -/
structure Session.Shows (s t : Session) : Prop where
  outcome : t.outcome = s.outcome
  outputPath : t.outputPath = s.outputPath

/-- Both come through to the same, or both stop in the same phase, of the same failure. -/
inductive EndsAlike {α : Type} (Q : α → Session → Session → Prop) :
    Except Stop (α × Session) → Except Stop (α × Session) → Prop
  | done {a : α} {s t : Session} (came : Q a s t) : EndsAlike Q (.ok (a, s)) (.ok (a, t))
  | stopped {phase : RunState.Kind} {e : Failure} {s t : Session} (shows : s.Shows t) :
    EndsAlike Q (.error ⟨phase, e, s⟩) (.error ⟨phase, e, t⟩)

/-- Stories that end alike show the same. -/
theorem EndsAlike.showing {l m : Except Stop (String × Session)}
    (h : EndsAlike (fun _ => Session.Shows) l m) (mode : Mode) :
    Showing.ofStory mode m = .ofStory mode l := by
  cases h with
  | done came => simp only [Showing.ofStory, came.outcome, came.outputPath]
  | stopped shows => simp only [Showing.ofStory, shows.outcome, shows.outputPath]

namespace Pipeline

variable {R : Gauges → Gauges → Prop} {s t : Session} {config config' : Config}

/-- How two surveys can both come through. -/
structure Surveyed (R : Gauges → Gauges → Prop) (config : Config) (s t : Session)
    (schema : Schema) (data : Entries) (u v : Session) : Prop where
  found : found s = .ok schema
  read : ∃ files o g h, listed s = .ok files ∧
    digested schema config.mode files (knowing schema s) = (.ok o, g) ∧ data = o.data ∧
    u = surveyed schema o g s ∧ v = surveyed schema o h t ∧ R g h

theorem survey_alike (finds : found t = found s) (lists : listed t = listed s) (shows : s.Shows t)
    (digests : ∀ schema files, found s = .ok schema → listed s = .ok files →
      (digested schema config'.mode files (knowing schema t)).1 =
        (digested schema config.mode files (knowing schema s)).1 ∧
      R (digested schema config.mode files (knowing schema s)).2
        (digested schema config'.mode files (knowing schema t)).2) :
    EndsAlike (fun p u v => Surveyed R config s t p.1 p.2 u v) (survey config s)
      (survey config' t) := by
  rw [survey_eq, survey_eq, finds, lists]
  cases known : found s with
  | error e => exact .stopped ⟨shows.outcome, shows.outputPath⟩
  | ok schema =>
    dsimp only
    cases looked : listed s with
    | error e => exact .stopped ⟨shows.outcome, shows.outputPath⟩
    | ok files =>
      dsimp only
      obtain ⟨same, after⟩ := digests schema files known looked
      rcases came : digested schema config.mode files (knowing schema s) with ⟨r, g⟩
      rcases came' : digested schema config'.mode files (knowing schema t) with ⟨r', h⟩
      rw [came, came'] at same after
      obtain rfl : r' = r := same
      cases r' with
      | error e => exact .stopped ⟨shows.outcome, shows.outputPath⟩
      | ok o => exact .done ⟨known, files, o, g, h, looked, came, rfl, rfl, rfl, after⟩

theorem rounded_alike (shows : s.Shows t) (gauges : t.gauges.megabytes = s.gauges.megabytes)
    (text : String) : EndsAlike (fun _ => Session.Shows) (rounded s text) (rounded t text) := by
  unfold rounded
  rw [gauges]
  cases s.gauges.megabytes with
  | error e => exact .stopped ⟨shows.outcome, shows.outputPath⟩
  | ok memory => exact .done ⟨shows.outcome, shows.outputPath⟩

/-- What is rendered and put in its place is the same. -/
structure RendersAlike (config : Config) (output : OutputConfig) (path : Option String)
    (data : Value) (s t : Session) : Prop where
  template : template path t = template path s
  render : t.pipeline.renderer.render = s.pipeline.renderer.render
  write : ∀ text, Put config output path data s text →
    (t.pipeline.renderer.write t.tree text output.path.plain).2 =
      (s.pipeline.renderer.write s.tree text output.path.plain).2

/-- Only the renderer and the files count. -/
theorem RendersAlike.of_eq {output : OutputConfig} {path : Option String} {data : Value}
    {u : Session} (renders : RendersAlike config output path data s t)
    (renderer : u.pipeline.renderer = t.pipeline.renderer) (tree : u.tree = t.tree) :
    RendersAlike config output path data s u where
  template := by
    have same : Pipeline.template path u = Pipeline.template path t := by
      unfold Pipeline.template
      rw [renderer, tree]
    exact same.trans renders.template
  render := (congrArg Renderer.render renderer).trans renders.render
  write text put := by
    rw [renderer, tree]
    exact renders.write text put

theorem texted_alike {output : OutputConfig} {path : Option String} {data : Value}
    (modes : config'.chosenMode = .validationOnly ↔ config.chosenMode = .validationOnly)
    (renders : RendersAlike config output path data s t) (shows : s.Shows t)
    (gauges : t.gauges.megabytes = s.gauges.megabytes) :
    EndsAlike (fun _ u v => u.Shows v ∧ v.gauges.megabytes = u.gauges.megabytes)
      (texted s config output path data) (texted t config' output path data) := by
  unfold texted
  by_cases stops : config.chosenMode = .validationOnly
  · rw [if_pos stops, if_pos (modes.mpr stops)]
    exact .done ⟨shows, gauges⟩
  · rw [if_neg stops, if_neg (mt modes.mp stops), renders.template]
    cases loaded : template path s with
    | error e => exact .stopped shows
    | ok made =>
      have same : rendered made output data t = rendered made output data s := by
        unfold rendered
        rw [renders.render]
      dsimp only
      rw [same]
      cases filled : rendered made output data s with
      | error e => exact .stopped shows
      | ok text =>
        unfold written
        cases asked : output.path.truthy with
        | false => exact .done ⟨shows, gauges⟩
        | true =>
          have wrote := renders.write text ⟨stops, ⟨made, loaded, filled⟩, asked⟩
          simp only [if_true]
          generalize s.pipeline.renderer.write s.tree text output.path.plain = r at wrote ⊢
          generalize t.pipeline.renderer.write t.tree text output.path.plain = r' at wrote ⊢
          obtain ⟨tree, done⟩ := r
          obtain ⟨tree', done'⟩ := r'
          obtain rfl : done' = done := wrote
          cases done' with
          | error e => exact .stopped ⟨shows.outcome, shows.outputPath⟩
          | ok place => exact .done ⟨⟨shows.outcome, rfl⟩, gauges⟩

theorem deliver_alike {schema : Schema} {data : Entries}
    (places' : places config' schema = places config schema)
    (modes : config'.chosenMode = .validationOnly ↔ config.chosenMode = .validationOnly)
    (renders : ∀ output path, places config schema = .ok (output, path) →
      RendersAlike config output path (.map data) s.bare t.bare)
    (shows : s.Shows t) (gauges : t.gauges.megabytes = s.gauges.megabytes) :
    EndsAlike (fun _ => Session.Shows) (deliver config schema data s.bare)
      (deliver config' schema data t.bare) := by
  have shows : s.bare.Shows t.bare := ⟨shows.outcome, shows.outputPath⟩
  rw [deliver_eq, deliver_eq, places']
  cases known : places config schema with
  | error m => exact .stopped shows
  | ok r =>
    obtain ⟨output, path⟩ := r
    have made := texted_alike modes (renders output path known) shows gauges
    dsimp only
    generalize texted s.bare config output path (.map data) = r at made ⊢
    generalize texted t.bare config' output path (.map data) = r' at made ⊢
    cases made with
    | stopped shows => exact .stopped shows
    | done came => exact rounded_alike came.1 came.2 _

end Pipeline
end Quire
