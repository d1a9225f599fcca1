import Quire.Proofs.Config.Validation
import Quire.Proofs.Telling

/-! The story of a whole run: what its report says, what its history holds and what it
leaves behind are told by the settings, the files and the gauges alone. -/

namespace Quire

namespace Work

variable {α β : Type} {mode : Mode}

theorem run_bind_ok {x : Work α} {a : α} {s t : Session} (came : x.run s = (.ok a, t))
    (f : α → Work β) : (x >>= f).run s = (f a).run t := by
  change ExceptT.bindCont f (x.run s).1 (x.run s).2 = _
  rw [came]
  rfl

theorem run_bind_error {x : Work α} {e : Failure} {s t : Session}
    (failed : x.run s = (.error e, t)) (f : α → Work β) : (x >>= f).run s = (.error e, t) := by
  change ExceptT.bindCont f (x.run s).1 (x.run s).2 = _
  rw [failed]
  rfl

theorem transition_bare {e : RunEvent} (inside : e ≠ .complete) (t : Session) :
    ((transition e).run t).2.bare = t.bare := by
  have still := Machine.transition_still inside t.pipeline.machine t.gauges
  unfold transition
  rw [run_get]
  generalize t.pipeline.machine.transition e t.gauges = moved at still ⊢
  obtain ⟨f | r, m, g⟩ := moved <;>
  · obtain rfl : g = t.gauges := still
    rfl

theorem discard_run (x : Work α) (t : Session) : (discard x).run t =
    ((x.run t).1.map fun _ => (), (x.run t).2) := by
  change ExceptT.bindCont (fun _ => (Pure.pure () : Work Unit)) (x.run t).1 (x.run t).2 = _
  rcases x.run t with ⟨_ | a, t'⟩ <;> rfl

end Work

namespace Config

theorem chosenMode_eq {c : Config} {mode : Mode} (told : Mode.ofValue c.mode = .ok mode) :
    c.chosenMode = mode := by
  rw [chosenMode, told]
  rfl

/-- Settings that hold ask for the mode that they asked for before. -/
theorem validate_asks {c c' : Config} (held : c.validate = (c', .ok ())) :
    Mode.ofValue c.mode = .ok c'.chosenMode ∧ Mode.ofValue c'.mode = .ok c'.chosenMode := by
  obtain ⟨moded, profiled, mode, profile, _, format⟩ := validate_eq_ok.mp held
  obtain ⟨_, m, told, rfl⟩ := withMode_eq_ok.mp mode
  obtain ⟨output, name, _, _, rfl⟩ := withFormat_eq_ok format
  have kept : profiled.mode = .str m.name := by
    rcases withProfile_eq_ok.mp profile with ⟨_, rfl⟩ | ⟨_, p, _, rfl⟩ <;> rfl
  have settled : Mode.ofValue profiled.mode = .ok m := by
    rw [kept]
    exact Mode.ofValue_name m
  have same : Config.chosenMode { profiled with
      output := .fields { output with format := .str name } } = m := chosenMode_eq settled
  rw [same]
  exact ⟨told, settled⟩

end Config

namespace Pipeline

open Work

variable {mode : Mode}

/-- A session with settings that were checked. -/
def settled (config : Config) (s : Session) : Session :=
  { s with pipeline := { s.pipeline with config, profile := config.profile } }

theorem checkConfig_run (s : Session) : checkConfig.run s =
    match s.pipeline.config.validate with
    | (config, .ok ()) => (.ok (), settled config s)
    | (config, .error e) => (.error e, { s with pipeline := { s.pipeline with config } }) := by
  unfold checkConfig
  rw [run_get]
  rcases s.pipeline.config.validate with ⟨config, e | _⟩ <;> rfl

/-- A failure is concluded without a trace outside the machine and the journal. -/
theorem conclude_bare (e : Failure) (t : Session) : ((conclude e).run t).2.bare = t.bare := by
  unfold conclude
  rw [run_get, run_note]
  by_cases proceeds : t.pipeline.machine.canProceed = true
  · rw [if_pos proceeds, discard_run]
    exact transition_bare (e := .fail _) nofun
      (noted .pipeline (failureNotes t.pipeline.machine.state.name e) t)
  · rw [if_neg proceeds]
    rfl

/-- Before the first event a machine is on any course. -/
theorem stands_idle (mode : Mode) {t : Session} (fresh : t.pipeline.machine = {}) :
    Stands mode t.bare t where
  bare := rfl
  runs := by rw [fresh]; exact Machine.runsIn_new mode
  passed := by rw [fresh]; exact (mode.upTo_idle).symm

/-- A run that has not begun begins with the settings in use. -/
theorem enter_idle {t : Session} (idle : t.pipeline.machine.state = .idle)
    (asks : Mode.ofValue t.pipeline.config.mode = .ok mode) :
    ∃ t', enter.run t = (.ok (), t') ∧ Stands mode t.bare t' ∧
      t'.pipeline.machine.state.kind = .initializing := by
  let u : Session := { t with pipeline := { t.pipeline with machine := {} } }
  have told := tells_step (P := (·.kind = .idle)) (.begin (.config t.pipeline.config))
    (fun _ => id) rfl nofun (fun config same => by cases same; exact asks)
    u.bare u (stands_idle mode rfl) rfl
  have begun : enter.run t = (discard (transition (.begin (.config t.pipeline.config)))).run u := by
    unfold enter
    rw [run_get, if_pos (by rw [idle]; rfl), discard_run, discard_run]
    rfl
  rw [begun, discard_run]
  generalize (transition (.begin (.config t.pipeline.config))).run u = moved at told ⊢
  cases told with
  | done stands came => exact ⟨_, rfl, stands, came.2⟩

theorem enter_initializing {t : Session} (begun : t.pipeline.machine.state.kind = .initializing) :
    enter.run t = (.ok (), t) := by
  have idle : isIdle t.pipeline.machine.state = false := by
    generalize t.pipeline.machine.state = r at begun
    cases r <;> first | rfl | cases begun
  unfold enter
  rw [run_get, idle]
  rfl

end Pipeline

namespace Session

open Pipeline Work

/-- The settings that a run was entered with are those of its pipeline. -/
def Own (s : Session) : Prop :=
  ∀ c, s.pipeline.machine.state = .initializing c → c = .config s.pipeline.config

/-- How a run goes: to its output, or to where it stops. -/
def story (s : Session) : Except Stop (String × Session) :=
  tale s.ready.pipeline.machine.state.kind s.ready.bare

/-- A report and a session as a story has them. -/
inductive Shown (mode : Mode) : RunReport × Session → Except Stop (String × Session) → Prop
  | completed {text : String} {tally : RunTally} {t left : Session} (bare : t.bare = left)
      (state : t.pipeline.machine.state = .completed (.value (.str text)) tally)
      (history : t.pipeline.machine.history.map RunState.kind = mode.states) :
      Shown mode (t.report none, t) (.ok (text, left))
  | failed {stop : Stop} {error : RunError} {previous : RunState} {t : Session}
      (bare : t.bare = stop.left)
      (state : t.pipeline.machine.state = .failed error previous)
      (phase : previous.kind = stop.phase)
      (history : t.pipeline.machine.history.map RunState.kind = mode.upTo stop.phase ++ [.failed]) :
      Shown mode (t.report (some (stop.cause.toFault none)), t) (.error stop)

variable {s : Session}

/-- A run starts before the first event or right after it. -/
theorem ready_start (reached : s.pipeline.machine.Reached) :
    (s.ready.pipeline.machine.state = .idle ∨
      s.ready.pipeline.machine.state.kind = .initializing) ∧
    ∀ mode : Mode, s.ready.pipeline.machine.history.map RunState.kind =
      mode.upTo s.ready.pipeline.machine.state.kind := by
  have underway := ready_underway reached
  have fresh : s.ready.pipeline.machine.state = .idle ∨
      s.ready.pipeline.machine.state.kind = .initializing := by
    unfold ready
    cases early : isFresh s.pipeline.machine.state with
    | false => exact .inl rfl
    | true =>
      unfold isFresh at early
      dsimp only
      split at early
      · next idle => exact .inl idle
      · next config begun => exact .inr (congrArg RunState.kind begun)
      · cases early
  refine ⟨fresh, fun mode => ?_⟩
  have unfailed : s.ready.pipeline.machine.state.kind ≠ .failed := by
    rcases fresh with idle | begun
    · rw [idle]
      nofun
    · rw [begun]
      nofun
  obtain ⟨mode', course⟩ := underway.reached.onCourse unfailed
  rw [course.history]
  rcases fresh with idle | begun
  · rw [idle]
    exact (mode'.upTo_idle).trans (mode.upTo_idle).symm
  · rw [begun, mode'.upTo_initializing, mode.upTo_initializing]

/-- A run that fails under way is concluded as its story has it. -/
theorem shown_failed {mode : Mode} {stop : Stop} {t : Session}
    (failed : phases.run s.ready = (.error stop.cause, t)) (bare : t.bare = stop.left)
    (underway : t.pipeline.machine.Underway)
    (phase : t.pipeline.machine.state.kind = stop.phase)
    (history : t.pipeline.machine.history.map RunState.kind = mode.upTo stop.phase) :
    Shown mode s.run (.error stop) := by
  obtain ⟨_, machine⟩ := conclude_run stop.cause underway
  have run : s.run = (((conclude stop.cause).run t).2.report (some (stop.cause.toFault none)),
      ((conclude stop.cause).run t).2) := by
    unfold Session.run
    rw [failed]
    rfl
  rw [run]
  refine .failed ((conclude_bare stop.cause t).trans bare) (by rw [machine]; rfl) phase ?_
  rw [machine, ← history]
  simp [Machine.push, RunState.kind]

theorem ready_own (own : s.Own) : s.ready.Own := by
  intro c begun
  refine own c ?_
  unfold ready at begun
  cases early : isFresh s.pipeline.machine.state with
  | false =>
    rw [early] at begun
    cases begun
  | true =>
    rw [early] at begun
    exact begun

/-- Once settings are checked, a run that had begun is on the course of their mode. -/
theorem stands_initializing {t : Session} (own : t.Own) {config : Config}
    (validated : t.pipeline.config.validate = (config, .ok ()))
    (begun : t.pipeline.machine.state.kind = .initializing)
    (passed : t.pipeline.machine.history.map RunState.kind =
      config.chosenMode.upTo t.pipeline.machine.state.kind) :
    Stands config.chosenMode (settled config t).bare (settled config t) where
  bare := rfl
  runs := by
    obtain ⟨asks, _⟩ := Config.validate_asks validated
    refine ⟨?_, fun c carried => ?_⟩
    · change t.pipeline.machine.state.kind ∈ _
      rw [begun]
      cases config.chosenMode <;> decide
    · change t.pipeline.machine.state.config? = some c at carried
      unfold Own at own
      generalize t.pipeline.machine.state = r at own begun carried
      cases r with
      | initializing c' =>
        obtain rfl := Option.some.inj carried
        rw [own c' rfl]
        exact asks
      | _ => cases begun
  passed := passed

/-- With settings that hold a run is on the course of their mode once it was entered. -/
theorem enter_settled (reached : s.pipeline.machine.Reached) (own : s.Own) {config : Config}
    (validated : s.pipeline.config.validate = (config, .ok ())) :
    ∃ t, enter.run (settled config s.ready) = (.ok (), t) ∧
      Stands config.chosenMode (settled config s.ready).bare t ∧
      t.pipeline.machine.state.kind = .initializing := by
  obtain ⟨fresh, start⟩ := ready_start reached
  rcases fresh with idle | begun
  · exact enter_idle idle (Config.validate_asks validated).2
  · exact ⟨_, enter_initializing begun,
      stands_initializing (ready_own own) validated begun (start _), begun⟩

/-- A run comes to what its story tells: the same end, the same trace and the same session
is left. -/
theorem run_shown (reached : s.pipeline.machine.Reached) (own : s.Own) :
    Shown s.pipeline.config.validate.1.chosenMode s.run s.story := by
  have underway := ready_underway reached
  have course := pursues_phases s.ready underway
  have checked := checkConfig_run s.ready
  have checked' := checkConfig_run s.ready.bare
  rw [show s.ready.bare.pipeline.config = s.pipeline.config from rfl] at checked'
  rw [show s.ready.pipeline.config = s.pipeline.config from rfl] at checked
  rcases validated : s.pipeline.config.validate with ⟨config, e | ⟨⟩⟩
  · rw [validated] at checked checked'
    have failed := run_bind_error checked fun _ => do
      enter
      stages (← get).pipeline.config
    rw [story, tale, Leg.bind_error (within_error checked' _)]
    exact shown_failed failed rfl underway rfl ((ready_start reached).2 _)
  · rw [validated] at checked checked'
    obtain ⟨t, entered, stands, kind⟩ := enter_settled reached own validated
    have ran : phases.run s.ready = (stages config).run t := by
      rw [phases_eq, run_bind_ok checked, run_bind_ok entered, run_get]
      rw [show t.pipeline.config = config from congrArg (·.pipeline.config) stands.bare]
    have told := tells_stages config rfl _ t stands kind
    rw [← ran] at told
    rw [story, tale, Leg.bind_ok (within_ok checked' _)]
    change Shown _ s.run (recount config (settled config s.ready).bare)
    generalize recount config (settled config s.ready).bare = r at told ⊢
    rcases came : phases.run s.ready with ⟨e | state, t'⟩
    · rw [came] at told
      cases told with
      | stopped stop stands phase =>
        rw [came] at course
        exact shown_failed came stands.bare (course.2 _ rfl) phase (phase ▸ stands.passed)
    · rw [came] at told
      cases told with
      | @done _ text _ left stands came' =>
        obtain ⟨_, tally, done⟩ := came'
        have passed := stands.passed
        rw [done] at passed
        have run : s.run = (t'.report none, t') := by
          unfold Session.run
          rw [came]
        rw [run]
        exact .completed stands.bare done (passed.trans (Mode.upTo_completed _))

end Session

/-! ### What there is to see of a run -/

/-- What a caller gets to see of a run, but for the closing figures. -/
structure Showing where
  ok : Bool
  output : Option String
  outputPath : Option String
  outcome : Option ProcessingOutcome
  error : Option Fault
  history : List RunState.Kind

namespace Showing

def ofRun (r : RunReport × Session) : Showing where
  ok := r.1.ok
  output := r.1.output
  outputPath := r.1.outputPath
  outcome := r.1.outcome
  error := r.1.error
  history := r.2.pipeline.machine.history.map RunState.kind

/-- What a story shows in a mode. -/
def ofStory (mode : Mode) : Except Stop (String × Session) → Showing
  | .ok (text, left) => ⟨true, some text, left.outputPath, left.outcome, none, mode.states⟩
  | .error stop => ⟨false, none, stop.left.outputPath, stop.left.outcome,
      some (stop.cause.toFault none), mode.upTo stop.phase ++ [.failed]⟩

end Showing

/-- The session that a stretch of a run leaves. -/
def remains {α : Type} : Except Stop (α × Session) → Session
  | .ok (_, left) => left
  | .error stop => stop.left

theorem Showing.ofStory_left (mode : Mode) (l : Except Stop (String × Session)) :
    (ofStory mode l).outcome = (remains l).outcome ∧
      (ofStory mode l).outputPath = (remains l).outputPath := by
  cases l <;> exact ⟨rfl, rfl⟩

theorem Session.Shown.showing {mode : Mode} {r : RunReport × Session}
    {l : Except Stop (String × Session)} (shown : Shown mode r l) :
    Showing.ofRun r = .ofStory mode l ∧ r.2.bare = remains l := by
  cases shown with
  | completed bare state history =>
    subst bare
    refine ⟨?_, rfl⟩
    simp only [Showing.ofRun, Showing.ofStory, report, state, history]
    rfl
  | failed bare state phase history =>
    refine ⟨?_, bare⟩
    simp only [Showing.ofRun, Showing.ofStory, ← bare, report, history]
    rfl

/-- A pipeline that is not under way starts a run from its first state. -/
theorem Session.story_idle {s : Session} (idle : s.ready.pipeline.machine.state = .idle) :
    s.story = Pipeline.tale .idle s.ready.bare := by
  unfold story
  rw [idle]
  rfl

/-- A run shows what its story shows, and leaves what it leaves. -/
theorem Session.run_showing {s : Session} (reached : s.pipeline.machine.Reached) (own : s.Own) :
    Showing.ofRun s.run = .ofStory s.pipeline.config.validate.1.chosenMode s.story ∧
      s.run.2.bare = remains s.story :=
  (run_shown reached own).showing

/-- A run of a pipeline that has not been used. -/
theorem Session.run_new {s : Session} (new : s.pipeline.machine = {}) :
    Showing.ofRun s.run = .ofStory s.pipeline.config.validate.1.chosenMode
        (Pipeline.tale .idle s.ready.bare) ∧
      s.run.2.bare = remains (Pipeline.tale .idle s.ready.bare) := by
  have idle : s.ready.pipeline.machine.state = .idle := by
    unfold ready
    rw [new]
    rfl
  rw [← story_idle idle]
  refine run_showing (new ▸ Machine.Reached.new) fun c begun => ?_
  rw [new] at begun
  cases begun

end Quire
