import Quire.Proofs.Alike
import Quire.Proofs.Config.Settled
import Quire.Proofs.Story

/-! What each stretch of a run comes to, and what it leaves, in terms of the settings, the
files and the gauges. -/

namespace Quire

namespace Work

variable {α β : Type} {x : Work α} {f : α → Work β} {s : Session} {g g' : Gauges}

/-- Work that comes to a result and leaves the session as it was, but for the gauges and the
journal. -/
def Comes (x : Work α) (s : Session) (r : Outcome α × Gauges) : Prop :=
  ∃ j, x.run s = (r.1, { s with gauges := r.2, journal := j })

theorem Comes.bind_error {e : Failure} (hx : Comes x s (.error e, g)) :
    Comes (x >>= f) s (.error e, g) := by
  obtain ⟨j, ran⟩ := hx
  exact ⟨j, run_bind_error ran f⟩

theorem Comes.bind_ok {a : α} {r : Outcome β × Gauges} (hx : Comes x s (.ok a, g))
    (hf : ∀ j, Comes (f a) { s with gauges := g, journal := j } r) : Comes (x >>= f) s r := by
  obtain ⟨j, ran⟩ := hx
  obtain ⟨j', ran'⟩ := hf j
  exact ⟨j', (run_bind_ok ran f).trans ran'⟩

theorem Comes.within_ok {a : α} (hx : Comes x s (.ok a, g)) (k : RunState.Kind) :
    x.within k s = .ok (a, { s with gauges := g }.bare) := by
  obtain ⟨j, ran⟩ := hx
  exact Work.within_ok ran k

theorem Comes.within_error {e : Failure} (hx : Comes x s (.error e, g)) (k : RunState.Kind) :
    x.within k s = .error ⟨k, e, { s with gauges := g }.bare⟩ := by
  obtain ⟨j, ran⟩ := hx
  exact Work.within_error ran k

theorem Comes.get_bind {f : Session → Work β} {r : Outcome β × Gauges} (h : Comes (f s) s r) :
    Comes (get >>= f) s r := h

theorem comes_pure (a : α) : Comes (pure a) s (.ok a, s.gauges) := ⟨s.journal, rfl⟩

theorem comes_ofOutcome (r : Outcome α) : Comes (ofOutcome r) s (r, s.gauges) := ⟨s.journal, rfl⟩

theorem comes_say (c : Channel) (severity : Severity) (text : String) :
    Comes (say c severity text) s (.ok (), s.gauges) := ⟨_, rfl⟩

theorem comes_tryOut (c : Channel) (a : Attempt α) : Comes (tryOut c a) s (a.result, s.gauges) :=
  ⟨_, rfl⟩

theorem comes_gauged (use : Gauges → Outcome α × Gauges) : Comes (gauged use) s (use s.gauges) :=
  ⟨s.journal, rfl⟩

theorem comes_traced (use : Gauges → Trace Gauges α) :
    Comes (traced use) s ((use s.gauges).outcome, (use s.gauges).state) := ⟨_, rfl⟩

end Work

namespace Pipeline

open Work

variable {s : Session}

/-- The files gone through in the way of a strategy. -/
def executed (order : Pool.Finishing) (m : Monitor) (strategy : Strategy)
    (work : String → Attempt Document) (files : List String) (g : Gauges) :
    Outcome (Execution Document) × Gauges :=
  if files.isEmpty then (.ok {}, g)
  else
    let t := if strategy.parallel then
        Execution.parallel order m.watch work files strategy.workers g
      else Execution.sequential m.watch work files g
    (t.outcome, t.state)

/-- What the files have come to, put together. -/
def finished (schema : Schema) (strategy : Strategy) (count : Nat)
    (done : Outcome (Execution Document)) : Outcome ProcessingOutcome := do
  let done ← done
  let (data, report) ← (aggregate schema done.results).result
  return ⟨data, done.results, done.errors, strategy, count, report⟩

theorem finished_eq_ok {schema : Schema} {strategy : Strategy} {count : Nat}
    {done : Outcome (Execution Document)} {o : ProcessingOutcome}
    (came : finished schema strategy count done = .ok o) :
    o.strategy = strategy ∧ o.fileCount = count ∧
      ∃ e, done = .ok e ∧ e.results = o.documents ∧ e.errors = o.errors := by
  obtain ⟨e, gone, rest⟩ := bind_eq_ok.mp came
  obtain ⟨made, _, told⟩ := bind_eq_ok.mp rest
  obtain rfl := Except.ok.inj told
  exact ⟨rfl, rfl, e, gone, rfl, rfl⟩

/-- What processing comes to, and the gauges after it. -/
def processed (s : Session) (files : List String) (rules : Option RuleSet)
    (bounds : Option Bounds) (options : Option ProcessingConfig) :
    Outcome ProcessingOutcome × Gauges :=
  match s.pipeline.schema with
  | none => (.error (.fault noSchema), s.gauges)
  | some schema => match s.pipeline.boundsFor files.length bounds with
    | .error e => (.error e, s.gauges)
    | .ok b => match Monitor.create b s.gauges with
      | (.error e, g) => (.error e, g)
      | (.ok m, g) => match (s.pipeline.strategyFor files.length options).result with
        | .error e => (.error e, g)
        | .ok strategy => match schema.flattenPaths with
          | .error e => (.error e, g)
          | .ok flatten =>
            let work path := (s.pipeline.intake s.tree flatten).process rules (.str path)
            let (done, g) := executed s.finishing m strategy work files g
            (finished schema strategy files.length done, g)

theorem comes_execute (m : Monitor) (strategy : Strategy) (work : String → Attempt Document)
    (files : List String) (s : Session) : Comes (execute m strategy work files) s
      (executed s.finishing m strategy work files s.gauges) := by
  unfold execute executed
  cases files.isEmpty with
  | true => exact comes_pure _
  | false =>
    cases strategy.parallel with
    | true =>
      simp only [Bool.false_eq_true, if_false, if_true]
      exact .get_bind (comes_traced _)
    | false =>
      simp only [Bool.false_eq_true, if_false]
      exact comes_traced _

theorem comes_finish (schema : Schema) (strategy : Strategy) (count : Nat)
    (done : Execution Document) (s : Session) :
    Comes (do
      let (data, report) ← tryOut .pipeline (aggregate schema done.results)
      tryOut .pipeline ⟨recoveryNotes done.errors.length done.results.length count, .ok ()⟩
      return (⟨data, done.results, done.errors, strategy, count, report⟩ : ProcessingOutcome)) s
      (finished schema strategy count (.ok done), s.gauges) := by
  have made := comes_tryOut (s := s) .pipeline (aggregate schema done.results)
  unfold finished
  rw [Outcome.ok_bind]
  generalize (aggregate schema done.results).result = aggregated at made ⊢
  cases aggregated with
  | error e => exact made.bind_error
  | ok made' => exact made.bind_ok fun j => (comes_tryOut _ _).bind_ok fun j => comes_pure _

theorem comes_processDocuments (files : List String) (rules : Option RuleSet)
    (bounds : Option Bounds) (options : Option ProcessingConfig) (s : Session) :
    Comes (processDocuments files rules bounds options) s
      (processed s files rules bounds options) := by
  unfold processDocuments processed
  refine Comes.get_bind ?_
  dsimp only
  cases s.pipeline.schema with
  | none => exact comes_ofOutcome _
  | some schema =>
    dsimp only
    cases s.pipeline.boundsFor files.length bounds with
    | error e => exact (comes_ofOutcome (.error e)).bind_error
    | ok b =>
      refine (comes_ofOutcome (.ok b)).bind_ok fun j => ?_
      have created := comes_gauged (s := { s with journal := j }) (Monitor.create b)
      dsimp only at created ⊢
      generalize Monitor.create b s.gauges = begun at created ⊢
      obtain ⟨e | m, g⟩ := begun
      · exact created.bind_error
      · refine created.bind_ok fun j => ?_
        have chosen := comes_tryOut (s := { s with gauges := g, journal := j }) .pipeline
          (s.pipeline.strategyFor files.length options)
        dsimp only at chosen ⊢
        generalize (s.pipeline.strategyFor files.length options).result = choice at chosen ⊢
        cases choice with
        | error e => exact chosen.bind_error
        | ok strategy =>
          refine chosen.bind_ok fun j => (comes_say _ _ _).bind_ok fun j => ?_
          dsimp only
          cases schema.flattenPaths with
          | error e => exact (comes_ofOutcome (.error e)).bind_error
          | ok flatten =>
            refine (comes_ofOutcome (.ok flatten)).bind_ok fun j => .get_bind ?_
            have gone := comes_execute m strategy
              (fun path => (s.pipeline.intake s.tree flatten).process rules (.str path)) files
              { s with gauges := g, journal := j }
            dsimp only at gone ⊢
            generalize executed s.finishing m strategy _ files g = done at gone ⊢
            obtain ⟨e | done, g'⟩ := done
            · exact gone.bind_error
            · exact gone.bind_ok fun j => comes_finish schema strategy files.length done _

/-! ### Each stretch by its result and what it leaves -/

/-- The schema of a run: the one at hand, or else the one that the settings name. -/
def found (s : Session) : Outcome Schema :=
  match s.pipeline.schema with
  | some schema => .ok schema
  | none => (Schema.attempt s.tree (FileName.ofString s.pipeline.config.schemaPath.plain)).result

def knowing (schema : Schema) (s : Session) : Session :=
  { s with pipeline := { s.pipeline with schema := some schema } }

/-- The files that the patterns of the settings lead to. -/
def listed (s : Session) : Outcome (List String) := do
  let sources ← (s.pipeline.config.sources.get "patterns" : Except Mishap _)
  (s.pipeline.sources.list s.tree sources.patterns).result

/-- What the files come to under the rules of a mode, and the gauges after it. -/
def digested (schema : Schema) (mode : Value) (files : List String) (s : Session) :
    Outcome ProcessingOutcome × Gauges :=
  match rulesIn schema mode with
  | .error e => (.error e, s.gauges)
  | .ok rules => processed s files rules none none

def template (path : Option String) (s : Session) : Outcome (Option Template) :=
  match path with
  | none => .ok none
  | some path => (s.pipeline.renderer.load s.tree path).result.map some

def rendered (template : Option Template) (output : OutputConfig) (data : Value) (s : Session) :
    Outcome String :=
  match template with
  | some t => s.pipeline.renderer.render t data
  | none => (serialize data output.format.plain : Except Mishap _)

/-- A text is written where the settings have a place for it. -/
def written (output : OutputConfig) (text : String) (s : Session) : Outcome Unit × Session :=
  if output.path.truthy then
    match s.pipeline.renderer.write s.tree text output.path.plain with
    | (tree, .ok place) => (.ok (), { s with tree, outputPath := some place })
    | (tree, .error e) => (.error e, { s with tree })
  else (.ok (), s)

variable (s : Session) (k : RunState.Kind)

theorem loadSchema_within : loadSchema.within k s =
    match found s with
    | .ok schema => .ok (schema, (knowing schema s).bare)
    | .error e => .error ⟨k, e, s.bare⟩ := by
  unfold within loadSchema found
  rw [run_get]
  cases known : s.pipeline.schema with
  | some schema =>
    have same : knowing schema s = s := by
      unfold knowing
      rw [← known]
    change Except.ok (schema, s.bare) = Except.ok (schema, (knowing schema s).bare)
    rw [same]
  | none =>
    dsimp only
    generalize Schema.attempt s.tree _ = a
    obtain ⟨notes, e | schema⟩ := a <;> rfl

theorem comes_listFiles : Comes listFiles s (listed s, s.gauges) := by
  unfold listFiles listed
  refine .get_bind ?_
  cases s.pipeline.config.sources.get "patterns" with
  | error m => exact (comes_ofOutcome (.error (.mishap m))).bind_error
  | ok sources =>
    refine (comes_ofOutcome (.ok sources)).bind_ok fun j => ?_
    have made := comes_tryOut (s := { s with journal := j }) .files
      (s.pipeline.sources.list s.tree sources.patterns)
    change Comes _ _ ((s.pipeline.sources.list s.tree sources.patterns).result, _)
    generalize (s.pipeline.sources.list s.tree sources.patterns).result = r at made ⊢
    cases r with
    | error e => exact made.bind_error
    | ok files => exact made.bind_ok fun j => (comes_say _ _ _).bind_ok fun j => comes_pure _

theorem digest_within (schema : Schema) (mode : Value) (files : List String) :
    (digest schema mode files).within k s =
    match digested schema mode files s with
    | (.ok o, g) => .ok (o.data, { s with gauges := g, outcome := some o }.bare)
    | (.error e, g) => .error ⟨k, e, { s with gauges := g }.bare⟩ := by
  unfold within digest digested
  cases rulesIn schema mode with
  | error e =>
    have failed : (ofOutcome (.error e) : Work (Option RuleSet)).run s = (.error e, s) := rfl
    rw [run_bind_error failed]
  | ok rules =>
    have came : (ofOutcome (.ok rules) : Work (Option RuleSet)).run s = (.ok rules, s) := rfl
    rw [run_bind_ok came]
    obtain ⟨j, ran⟩ := comes_processDocuments files rules none none s
    dsimp only
    generalize processed s files rules none none = r at ran ⊢
    obtain ⟨e | o, g⟩ := r
    · rw [run_bind_error ran]
      rfl
    · rw [run_bind_ok ran]
      rfl

theorem comes_loadTemplate (path : Option String) :
    Comes (loadTemplate path) s (template path s, s.gauges) := by
  unfold loadTemplate template
  cases path with
  | none => exact comes_pure none
  | some path =>
    have made := comes_tryOut (s := s) .rendering (s.pipeline.renderer.load s.tree path)
    have looked := Comes.get_bind
      (f := fun s => tryOut .rendering (s.pipeline.renderer.load s.tree path)) made
    change Comes (_ >>= fun t => pure (some t)) s _
    dsimp only
    generalize (s.pipeline.renderer.load s.tree path).result = r at looked ⊢
    cases r with
    | error e => exact looked.bind_error
    | ok t => exact looked.bind_ok fun j => comes_pure _

theorem comes_renderWith (t : Option Template) (output : OutputConfig) (data : Value) :
    Comes (renderWith t data output.format) s (rendered t output data s, s.gauges) := by
  unfold renderWith rendered
  cases t with
  | none => exact comes_ofOutcome _
  | some t => exact .get_bind (comes_ofOutcome _)

theorem express_within (t : Option Template) (output : OutputConfig) (data : Value) :
    (express t output data).within k s =
    match rendered t output data s with
    | .error e => .error ⟨k, e, s.bare⟩
    | .ok text => match written output text s with
      | (.ok (), u) => .ok (text, u.bare)
      | (.error e, u) => .error ⟨k, e, u.bare⟩ := by
  unfold within express
  obtain ⟨j, ran⟩ := comes_renderWith s t output data
  generalize rendered t output data s = r at ran ⊢
  cases r with
  | error e =>
    rw [run_bind_error ran]
    rfl
  | ok text =>
    rw [run_bind_ok ran]
    unfold written
    cases output.path.truthy with
    | false => rfl
    | true =>
      have wrote := writeOutput_run text output.path.plain { s with journal := j }
      simp only [if_true] at wrote ⊢
      generalize s.pipeline.renderer.write s.tree text output.path.plain = r at wrote ⊢
      obtain ⟨tree, e | place⟩ := r
      · rw [run_bind_error wrote]
        rfl
      · rw [run_bind_ok wrote]
        rfl

/-! Once the settings are checked a run looks for the schema and the files where it would have
before. -/

variable {s}

theorem found_settled {c : Config} (kept : Config.Kept s.pipeline.config c) :
    found (settled c s.ready.bare) = found s := by
  unfold found
  rw [show (settled c s.ready.bare).pipeline.config.schemaPath = s.pipeline.config.schemaPath from
    kept.schemaPath]
  rfl

theorem listed_settled {c : Config} (kept : Config.Kept s.pipeline.config c) :
    listed (settled c s.ready.bare) = listed s := by
  unfold listed
  rw [show (settled c s.ready.bare).pipeline.config.sources = s.pipeline.config.sources from
    kept.sources]
  rfl

end Pipeline
end Quire
