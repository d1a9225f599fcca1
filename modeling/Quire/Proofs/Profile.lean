import Quire.Proofs.Config.Settled
import Quire.Proofs.Outline

/-! The profile that a pipeline is entered with. It is gone by as long as files are
processed on their own; a run puts the profile of its settings in its place, once they are
checked, and no trace of the other one is left. -/

namespace Quire

namespace Pipeline

open Work

/-- A pipeline that was entered with settings and a profile. -/
def entered (c : Config) (bound : SourceConfig) (profile : StrategyProfile) (s : Session) :
    Session :=
  { s with
    pipeline := { s.pipeline with
      config := c, schema := s.pipeline.ownSchema, bound, profile := .fields profile
      machine := Machine.push {} (.begin (.config c)) (.initializing (.config c)) }
    journal := s.journal ++ [⟨.pipeline, .debug,
      (Machine.stepNote .idle (.initializing (.config c)) (.begin (.config c))).text⟩] }

theorem begin_run {s t : Session} {c : Config} {profile : StrategyProfile} {state : RunState}
    (begun : (begin (some c) (some profile)).run s = (.ok state, t)) :
    ∃ bound, c.sources = .fields bound ∧ t = entered c bound profile s := by
  obtain ⟨schemaPath, mode, profileName, sources, processing, own, bounds, output, logging⟩ := c
  cases sources with
  | other v => cases begun
  | fields bound =>
    cases begun
    exact ⟨bound, rfl, rfl⟩

theorem processed_strategy {s : Session} {files : List String} {rules : Option RuleSet}
    {bounds : Option Bounds} {options : Option ProcessingConfig} {o : ProcessingOutcome}
    (came : (processed s files rules bounds options).1 = .ok o) :
    (s.pipeline.strategyFor files.length options).result = .ok o.strategy := by
  unfold processed at came
  split at came
  · cases came
  · split at came
    · cases came
    · split at came
      · cases came
      · split at came
        · cases came
        · next strategy chosen =>
          split at came
          · cases came
          · rw [(finished_eq_ok came).1]
            exact chosen

/-- Where nothing is asked for, settings and profile of the pipeline choose. -/
theorem strategyFor_own {p : Pipeline} {options : ProcessingConfig} {profile : StrategyProfile}
    (asked : p.config.processing = .fields options) (own : p.profile = .fields profile)
    (count : Nat) : (p.strategyFor count none).result =
      (Strategy.attempt (.int count) (some options) none profile).result := by
  simp only [strategyFor, asked, own]
  rfl

theorem digested_strategy {schema : Schema} {mode : Value} {files : List String} {s : Session}
    {o : ProcessingOutcome} {g : Gauges} (came : digested schema mode files s = (.ok o, g)) :
    (s.pipeline.strategyFor files.length none).result = .ok o.strategy := by
  unfold digested at came
  split at came
  · cases came
  · exact processed_strategy (congrArg Prod.fst came)

end Pipeline

namespace Session

open Pipeline

/-- Another profile in the place of the one at hand. -/
def withProfile (profile : Section StrategyProfile) (s : Session) : Session :=
  { s with pipeline := { s.pipeline with profile } }

theorem phases_withProfile {s : Session} {c : Config}
    (valid : s.pipeline.config.validate = (c, .ok ())) (profile : Section StrategyProfile) :
    phases.run (s.withProfile profile) = phases.run s := by
  have checked := checkConfig_run s
  have checked' := checkConfig_run (s.withProfile profile)
  rw [show (s.withProfile profile).pipeline.config = s.pipeline.config from rfl] at checked'
  rw [valid] at checked checked'
  rw [phases_eq, Work.run_bind_ok checked, Work.run_bind_ok checked']
  rfl

/-- With settings that hold, a run does not depend on the profile at hand when it starts. -/
theorem run_withProfile {s : Session} {c : Config}
    (valid : s.pipeline.config.validate = (c, .ok ())) (profile : Section StrategyProfile) :
    (s.withProfile profile).run = s.run := by
  have same : (s.withProfile profile).ready = s.ready.withProfile profile := rfl
  unfold run
  rw [same, phases_withProfile (s := s.ready) valid profile]

/-- A run that was entered goes by the profile that the checked settings have. -/
theorem entered_run_strategy {s : Session} {c c' : Config} {profile own : StrategyProfile}
    {bound : SourceConfig} {options : ProcessingConfig} (valid : c.validate = (c', .ok ()))
    (there : c.sources = .fields bound) (asked : c.processing = .fields options)
    (its : c'.profile = .fields own) {o : ProcessingOutcome}
    (came : (entered c bound profile s).run.1.outcome = some o) : ∃ files,
      ((entered c bound profile s).pipeline.sources.list s.tree bound.patterns).result =
        .ok files ∧
      (Strategy.attempt (.int files.length) (some options) none own).result = .ok o.strategy := by
  have reached : (entered c bound profile s).pipeline.machine.Reached :=
    Machine.Reached.new.event (.begin (.config c)) s.gauges
  have own' : (entered c bound profile s).Own := fun c' same => by
    cases same
    rfl
  have shown := congrArg Showing.outcome (run_showing reached own').1
  rw [(Showing.ofStory_left _ _).1, story, tale_eq, show
    (entered c bound profile s).ready.pipeline.config.validate = _ from valid] at shown
  obtain ⟨schema, files, g, _, looked, read⟩ := recount_outcome
    (s := settled c' (entered c bound profile s).ready.bare) rfl (shown.symm.trans came)
  have kept := Config.validate_kept valid
  have sources : c'.sources = .fields bound := kept.sources.trans there
  refine ⟨files, ?_, ?_⟩
  · simp only [listed, settled, sources] at looked
    exact looked
  · let u := knowing schema (settled c' (entered c bound profile s).ready.bare)
    have chosen := digested_strategy read
    rwa [strategyFor_own (p := u.pipeline) (kept.processing.trans asked) its] at chosen

/-- Settings and a profile that a pipeline is entered with: when files are processed without more
ado, the profile has its say in the strategy. A run goes by the profile that its checked settings
have, and is the same with any other profile that could have been handed over. -/
theorem entered_profile {s t : Session} {c c' : Config} {profile : StrategyProfile}
    {state : RunState} (valid : c.validate = (c', .ok ()))
    (begun : (begin (some c) (some profile)).run s = (.ok state, t)) :
    ∃ sources options own, c.sources = .fields sources ∧ c.processing = .fields options ∧
      c'.profile = .fields own ∧
      (∀ files rules bounds o u, (processDocuments files rules bounds none).run t = (.ok o, u) →
        (Strategy.attempt (.int files.length) (some options) none profile).result =
          .ok o.strategy) ∧
      (∀ o, t.run.1.outcome = some o → ∃ files,
        (t.pipeline.sources.list t.tree sources.patterns).result = .ok files ∧
        (Strategy.attempt (.int files.length) (some options) none own).result = .ok o.strategy) ∧
      ∀ profile' state' t', (begin (some c) (some profile')).run s = (.ok state', t') →
        t'.run = t.run := by
  obtain ⟨⟨own, its⟩, ⟨options, asked⟩, _, _⟩ := Config.validate_groups valid
  obtain ⟨bound, there, rfl⟩ := begin_run begun
  refine ⟨bound, options, own, there, asked, its, ?_, ?_, ?_⟩
  · intro files rules bounds o u came
    obtain ⟨j, ran⟩ := comes_processDocuments files rules bounds none (entered c bound profile s)
    rw [came] at ran
    have chosen := processed_strategy (Prod.mk.inj ran).1.symm
    rwa [strategyFor_own (p := (entered c bound profile s).pipeline) asked rfl] at chosen
  · exact fun o came => entered_run_strategy valid there asked its came
  · intro profile' state' t' begun'
    obtain ⟨bound', there', rfl⟩ := begin_run begun'
    obtain rfl := Section.fields.inj (there.symm.trans there')
    exact run_withProfile (s := entered c bound profile s) valid (.fields profile')

theorem exists_of_isOk {α β : Type} {r : Outcome α × β} (came : r.1.isOk = true) :
    ∃ a b, r = (.ok a, b) := by
  obtain ⟨e | a, b⟩ := r
  · cases came
  · exact ⟨a, b, rfl⟩

/-- Two texts that are their own files, in a pipeline that is given its schema. -/
def pair : Session where
  pipeline :=
    { config := {}
      profile := .fields {}
      schema := some ⟨.map [], none⟩
      ownSchema := some ⟨.map [], none⟩
      bound := {}
      replacement :=
        { list := some fun _ _ => .pure ["a.md", "b.md"]
          read := some fun _ path => .ok path
          extract := some fun text _ => .ok ⟨[(.str "title", .str text)], text, "yaml"⟩ }
      renderer := {} }
  tree := ⟨[], []⟩
  gauges := .still

def hurried : Config where
  schemaPath := .str "s.json"
  processing := .fields { parallel := .bool true }

/-- A profile by which two files are too few for parallel work. -/
def patient : StrategyProfile := ⟨.int 50, .int 4⟩

theorem hurried_validate : hurried.validate = (hurried, .ok ()) := by
  with_unfolding_all rfl

theorem begin_hurried (profile : StrategyProfile) :
    (begin (some hurried) (some profile)).run pair =
      (.ok (.initializing (.config hurried)), entered hurried {} profile pair) := rfl

theorem entered_profile_pair :
    hurried.validate = (hurried, .ok ()) ∧
    (begin (some hurried) (some patient)).run pair =
      (.ok (.initializing (.config hurried)), entered hurried {} patient pair) ∧
    (∃ o u, (processDocuments ["a.md", "b.md"] none none none).run
        (entered hurried {} patient pair) = (.ok o, u) ∧
      (Strategy.attempt (.int 2) (some { parallel := .bool true }) none patient).result =
        .ok o.strategy) ∧
    (∃ o, (entered hurried {} patient pair).run.1.outcome = some o ∧
      (Strategy.attempt (.int 2) (some { parallel := .bool true }) none {}).result =
        .ok o.strategy) ∧
    (entered hurried {} {} pair).run = (entered hurried {} patient pair).run := by
  obtain ⟨sources, options, own, there, asked, its, alone, whole, any⟩ :=
    entered_profile hurried_validate (begin_hurried patient)
  cases there
  cases asked
  cases its
  have two : ((["a.md", "b.md"].length : Nat) : Int) = 2 := rfl
  refine ⟨hurried_validate, begin_hurried patient, ?_, ?_, any {} _ _ (begin_hurried {})⟩
  · have comes : ((processDocuments ["a.md", "b.md"] none none none).run
        (entered hurried {} patient pair)).1.isOk = true := by decide +kernel
    obtain ⟨o, u, came⟩ := exists_of_isOk comes
    have chosen := alone _ _ _ o u came
    rw [two] at chosen
    exact ⟨o, u, came, chosen⟩
  · have comes : (entered hurried {} patient pair).run.1.outcome.isSome = true := by
      decide +kernel
    obtain ⟨o, came⟩ := Option.isSome_iff_exists.mp comes
    obtain ⟨files, looked, chosen⟩ := whole o came
    cases looked
    rw [two] at chosen
    exact ⟨o, came, chosen⟩

/-- Two files are read in parallel, although by the profile that was handed over they are too
few for that. -/
theorem entered_profile_unheeded : ¬∀ (s t : Session) (c : Config) (profile : StrategyProfile)
    (state : RunState) (sources : SourceConfig) (options : ProcessingConfig)
    (files : List String) (o : ProcessingOutcome), (∃ c', c.validate = (c', .ok ())) →
    (begin (some c) (some profile)).run s = (.ok state, t) →
    c.sources = .fields sources → c.processing = .fields options →
    (t.pipeline.sources.list t.tree sources.patterns).result = .ok files →
    t.run.1.outcome = some o →
    (Strategy.attempt (.int files.length) (some options) none profile).result =
      .ok o.strategy := by
  intro claimed
  have together : (entered hurried {} patient pair).run.1.outcome.map (·.strategy.parallel) =
    some true := by decide +kernel
  obtain ⟨o, came, parallel⟩ := Option.map_eq_some_iff.mp together
  have chosen := claimed pair _ hurried patient _ {} { parallel := .bool true } ["a.md", "b.md"] o
    ⟨_, hurried_validate⟩ (begin_hurried patient) rfl rfl rfl came
  have apart : (Strategy.attempt (.int 2) (some { parallel := .bool true }) none patient).result.map
    (·.parallel) = .ok false := rfl
  rw [show ((["a.md", "b.md"].length : Nat) : Int) = 2 from rfl] at chosen
  rw [chosen] at apart
  exact nomatch parallel.symm.trans (Except.ok.inj apart)

end Session
end Quire
