import Quire.Proofs.Monitor
import Quire.Proofs.Work

/-! Processing files comes to the same whatever way of going through them the
options ask for, and whichever batches finish first. -/

namespace Quire

/-- A whole number that is one at least. -/
def Value.Staffs (v : Value) : Prop := ∃ n, v.number? = some (.whole n) ∧ 1 ≤ n

/-- Options of the kinds they are declared with, by which there is a worker at
least: by their own policy, or else by their count, or else by the profile. -/
def ProcessingConfig.Staffed (o : ProcessingConfig) (profile : StrategyProfile) : Prop :=
  match o.adaptive with
  | .fields a => a.workers.Staffs ∧ a.threshold.number?.isSome = true
  | .other v => v = .null ∧ (o.workers.orElse profile.workers).Staffs ∧
    profile.minFiles.number?.isSome = true

namespace Strategy

theorem against_ok (count : Nat) {limit : Value} (number : limit.number?.isSome = true)
    (test : Number → Number → Bool) : ∃ b, against (.int count) limit test = .ok b := by
  obtain ⟨n, found⟩ := Option.isSome_iff_exists.mp number
  exact ⟨test n (.whole count), by simp only [against, found]; rfl⟩

theorem choose_staffed {o : ProcessingConfig} {profile : StrategyProfile}
    (staffed : o.Staffed profile) (count : Nat) :
    ∃ s, choose (.int count) (some o) none profile = .ok s ∧ s.workers.Staffs := by
  unfold ProcessingConfig.Staffed at staffed
  cases kept : o.adaptive with
  | fields a =>
    rw [kept] at staffed
    obtain ⟨above, compared⟩ := against_ok count staffed.2 Number.less
    refine ⟨⟨above, a.workers, adaptiveReason (.int count) above a.threshold⟩, ?_, staffed.1⟩
    simp only [choose, policy, kept, Section.given, Section.get, ofAdaptive, isAbove, bind,
      Except.bind, pure, Except.pure, compared]
  | other v =>
    rw [kept] at staffed
    obtain ⟨rfl, staffs, number⟩ := staffed
    obtain ⟨parallel, compared⟩ := against_ok count number Number.lessEq
    simp only [choose, policy, kept, Section.given, ofRequest, isAtLeast, compared, askedWorkers]
    cases isRequested (some o) with
    | false => exact ⟨_, rfl, staffs⟩
    | true => exact ⟨_, rfl, staffs⟩

/-- With enough workers a strategy is found, and it has them. -/
theorem attempt_staffed {o : ProcessingConfig} {profile : StrategyProfile}
    (staffed : o.Staffed profile) (count : Nat) :
    ∃ s, (attempt (.int count) (some o) none profile).result = .ok s ∧ s.workers.Staffs := by
  obtain ⟨s, made, staffs⟩ := choose_staffed staffed count
  refine ⟨s, ?_, staffs⟩
  simp only [attempt, made]
  rfl

end Strategy

namespace Pipeline

open Work

/-- The options of a run: those that are given, or those of the settings. -/
def optionsFor (p : Pipeline) (options : Option ProcessingConfig) : Section ProcessingConfig :=
  (options.map .fields).getD p.config.processing

/-- With enough workers the choice of a strategy fails only where the profile
cannot be told. -/
theorem strategyFor_staffed {p : Pipeline} {options : Option ProcessingConfig}
    {o : ProcessingConfig} (asked : p.optionsFor options = .fields o)
    (staffed : ∀ profile, p.profile.getOr {} "min_files_for_parallel" = .ok profile →
      o.Staffed profile) (count : Nat) :
    (∃ e, p.profile.getOr {} "min_files_for_parallel" = .error e ∧
      (p.strategyFor count options).result = .error (.mishap e)) ∨
    ∃ profile s, p.profile.getOr {} "min_files_for_parallel" = .ok profile ∧
      (p.strategyFor count options).result = .ok s ∧ s.workers.Staffs := by
  have chosen : (p.strategyFor count options).result =
      (p.strategyFor count (some o)).result := by
    cases options with
    | some o' =>
      cases asked
      rfl
    | none =>
      have kept : p.config.processing = .fields o := asked
      simp only [strategyFor, kept]
      rfl
  rw [chosen]
  cases told : p.profile.getOr {} "min_files_for_parallel" with
  | error e =>
    refine .inl ⟨e, rfl, ?_⟩
    simp only [strategyFor, told]
    rfl
  | ok profile =>
    obtain ⟨s, made, staffs⟩ := Strategy.attempt_staffed (staffed profile told) count
    refine .inr ⟨profile, s, rfl, ?_, staffs⟩
    simp only [strategyFor, told]
    exact made

/-- Either executor brings in the same results and the same faults. -/
theorem execute_calm {m : Monitor} {strategy : Strategy} {files : List String} {s : Session}
    (calm : m.watch.Calm s.gauges.Later files.length) (staffs : strategy.workers.Staffs)
    (work : String → Attempt Document) :
    ((execute m strategy work files).run s).1.map Execution.fruits =
      Execution.comesTo work files := by
  unfold execute
  cases files with
  | nil => rfl
  | cons path paths =>
    cases strategy.parallel with
    | true =>
      obtain ⟨n, counts, positive⟩ := staffs
      exact Execution.parallel_calm s.finishing calm counts positive (.refl s.gauges)
    | false => exact Execution.sequential_calm calm (.refl s.gauges)

/-- What processing comes to, whatever the strategy. -/
def gathered (p : Pipeline) (tree : FileTree) (g : Gauges) (files : List String)
    (rules : Option RuleSet) (bounds : Option Bounds) :
    Outcome (Entries × List Document × List Fault × AggregationReport) := do
  let some schema := p.schema | .error (.fault noSchema)
  let bounds ← p.boundsFor files.length bounds
  let _ ← (Monitor.create bounds g).1
  let _ ← (p.profile.getOr {} "min_files_for_parallel" : Except Mishap _)
  let flatten ← schema.flattenPaths
  let intake := p.intake tree flatten
  let (documents, errors) ←
    Execution.comesTo (fun path => intake.process rules (.str path)) files
  let (data, report) ← (aggregate schema documents).result
  return (data, documents, errors, report)

/-- The parts of an outcome that do not tell how the files were gone through. -/
def content (o : ProcessingOutcome) : Entries × List Document × List Fault × AggregationReport :=
  (o.data, o.documents, o.errors, o.report)

/-- What is made of the fruits of an execution, by whatever work they came. -/
theorem aggregated_content (schema : Schema) (strategy : Strategy) (count : Nat)
    (work : Work (Execution Document)) (s : Session) :
    ((do
      let done ← work
      let (data, report) ← tryOut .pipeline (aggregate schema done.results)
      let notes := recoveryNotes done.errors.length done.results.length count
      tryOut .pipeline ⟨notes, .ok ()⟩
      return ⟨data, done.results, done.errors, strategy, count, report⟩ :
        Work ProcessingOutcome).run s).1.map content = (do
      let (documents, errors) ← (work.run s).1.map Execution.fruits
      let (data, report) ← (aggregate schema documents).result
      return (data, documents, errors, report)) := by
  rw [run_bind]
  cases (work.run s).1 with
  | error e => rfl
  | ok done =>
    simp only [Outcome.ok_bind, tryOut_bind, Except.map, Execution.fruits]
    cases (aggregate schema done.results).result with
    | error e => rfl
    | ok made => rfl

theorem processDocuments_gathered {s : Session} {files : List String} {bounds : Option Bounds}
    {options : Option ProcessingConfig} {o : ProcessingConfig}
    (calm : ∀ b m g, s.pipeline.boundsFor files.length bounds = .ok b →
      Monitor.create b s.gauges = (.ok m, g) → m.watch.Calm g.Later files.length)
    (asked : s.pipeline.optionsFor options = .fields o)
    (staffed : ∀ profile, s.pipeline.profile.getOr {} "min_files_for_parallel" = .ok profile →
      o.Staffed profile) (rules : Option RuleSet) :
    ((processDocuments files rules bounds options).run s).1.map content =
      s.pipeline.gathered s.tree s.gauges files rules bounds := by
  unfold processDocuments gathered
  rw [get_bind]
  dsimp only
  cases known : s.pipeline.schema with
  | none => rfl
  | some schema =>
    simp only [ofOutcome_bind, gauged_bind, tryOut_bind, say_bind, get_bind]
    cases bounded : s.pipeline.boundsFor files.length bounds with
    | error e => rfl
    | ok b =>
      simp only [Outcome.ok_bind]
      rcases watched : Monitor.create b s.gauges with ⟨e | m, g⟩
      · rfl
      · have calm := calm b m g bounded watched
        simp only [Outcome.ok_bind]
        rcases strategyFor_staffed asked staffed files.length with
          ⟨e, told, failed⟩ | ⟨profile, strategy, told, found, staffs⟩
        · simp only [told, failed]
          rfl
        · simp only [told, found, Outcome.ok_bind]
          cases flattened : schema.flattenPaths with
          | error e => rfl
          | ok flatten =>
            refine (aggregated_content schema strategy files.length _ _).trans ?_
            rw [execute_calm (by exact calm) staffs]
            rfl

/-- Processing comes to the same documents, faults, data and report, or to the
same failure, by whatever options it is staffed and in whatever order the
batches finish. -/
theorem processDocuments_agree {s : Session} {files : List String} {bounds : Option Bounds}
    {options options' : Option ProcessingConfig} {o o' : ProcessingConfig}
    (calm : ∀ b m g, s.pipeline.boundsFor files.length bounds = .ok b →
      Monitor.create b s.gauges = (.ok m, g) → m.watch.Calm g.Later files.length)
    (asked : s.pipeline.optionsFor options = .fields o)
    (asked' : s.pipeline.optionsFor options' = .fields o')
    (staffed : ∀ profile, s.pipeline.profile.getOr {} "min_files_for_parallel" = .ok profile →
      o.Staffed profile ∧ o'.Staffed profile)
    (rules : Option RuleSet) (order order' : Pool.Finishing) :
    ((processDocuments files rules bounds options).run
      { s with finishing := order }).1.map content =
    ((processDocuments files rules bounds options').run
      { s with finishing := order' }).1.map content := by
  have left := processDocuments_gathered (s := { s with finishing := order }) calm asked
    (fun profile told => (staffed profile told).1) rules
  have right := processDocuments_gathered (s := { s with finishing := order' }) calm asked'
    (fun profile told => (staffed profile told).2) rules
  exact left.trans right.symm

/-- Texts are their own paths, except for one that cannot be read. -/
def sample : Session where
  pipeline :=
    { config := {}
      profile := .fields {}
      schema := some ⟨.map [], none⟩
      ownSchema := none
      bound := {}
      replacement :=
        { read := some fun _ path =>
            if path = "b.md" then .error (.mishap (.badValue "no text")) else .ok path
          extract := some fun text _ => .ok ⟨[(.str "title", .str text)], text, "yaml"⟩ }
      renderer := {} }
  tree := ⟨[], []⟩
  gauges := .still

/-- One by one, and in two batches of which the last one finishes first. -/
theorem processDocuments_agree_sample :
    (((processDocuments ["a.md", "b.md", "c.md"] none (some .unbounded) none).run
      { sample with finishing := Pool.oldestFirst }).1.map content).isOk = true ∧
    ((processDocuments ["a.md", "b.md", "c.md"] none (some .unbounded) none).run
      { sample with finishing := Pool.oldestFirst }).1.map content =
    ((processDocuments ["a.md", "b.md", "c.md"] none (some .unbounded)
      (some { parallel := .bool true, workers := .int 2 })).run
      { sample with finishing := fun _ n => [n - 1] }).1.map content := by
  refine ⟨by decide +kernel, processDocuments_agree (s := sample)
    (fun b m g bounded created => ?_) rfl rfl (fun profile told => ?_) none _ _⟩
  · cases bounded
    exact Monitor.unbounded_calm Gauges.still_measures created _
  · cases told
    exact ⟨⟨rfl, ⟨4, rfl, by decide⟩, rfl⟩, ⟨rfl, ⟨2, rfl, by decide⟩, rfl⟩⟩

end Pipeline
end Quire
