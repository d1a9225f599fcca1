import Quire.Proofs.Command.Planning
import Quire.Proofs.Modes

/-! How a validation ends. It goes through the files one by one and passes over those that
fail, so its exit code is good as long as one of them gets through; the others are in its
report. -/

namespace Quire

namespace Machine

/-- The closing figures of a completed machine count the states before the last one. -/
theorem Reached.states {m : Machine} (reached : m.Reached) {output : Cargo} {figures : RunTally}
    (done : m.state = .completed output figures) : figures.states = m.history.length - 1 := by
  induction reached with
  | new => cases done
  | @event m e g before ih =>
    rcases m.transition_cases e g with ⟨s, after, once, step⟩ | ⟨f, after, once, _⟩
    · rw [once] at done ⊢
      obtain rfl : s = .completed output figures := done
      generalize m.state = before at step
      cases step with
      | complete config output mode memory asked read => simp [push, RunState.tally]
    · rw [once] at done ⊢
      exact ih done

end Machine

namespace Execution

variable {σ α : Type} {w : Watch σ} {work : String → Attempt α} {files : List String}

/-- Going through files one by one ends well only if all of them were gone through. -/
theorem goSequential_eq_ok {done ended : Execution α} {s : σ}
    (came : (goSequential w work done s files).outcome = .ok ended) :
    ended = through work done files := by
  induction files generalizing done s with
  | nil =>
    rw [through_nil]
    exact (Except.ok.inj came).symm
  | cons path paths ih =>
    rw [through_cons]
    unfold goSequential at came
    split at came
    · cases came
    · cases came
    · simp only [Trace.after] at came
      split at came
      · cases came
      · exact ih came

theorem exists_of_mem_successes {x : α} (brought : x ∈ successes work files) :
    ∃ path ∈ files, (work path).result = .ok x := by
  rw [successes_eq] at brought
  obtain ⟨path, inside, came⟩ := List.mem_filterMap.mp brought
  refine ⟨path, inside, ?_⟩
  cases result : (work path).result with
  | error e =>
    rw [result] at came
    cases came
  | ok y =>
    rw [result] at came
    rw [Option.some.inj came]

theorem mem_failures {path : String} (inside : path ∈ files) {e : Failure}
    (failed : (work path).result = .error e) : e.toFault (some path) ∈ failures work files :=
  List.mem_filterMap.mpr ⟨path, inside, by rw [tryFile_of_error failed]; rfl⟩

/-- A file comes to something or fails. -/
theorem eq_nil_of_through (brought : successes work files = [])
    (failed : failures work files = []) : files = [] := by
  cases files with
  | nil => rfl
  | cons path paths =>
    cases tried : (tryFile work path).2 with
    | ok x => simp [successes, tried, Except.toOption] at brought
    | error f => simp [failures, tried, fault?] at failed

theorem survived_eq_ok {e e' : Execution α} (came : (survived e).result = .ok e') :
    e' = e ∧ (e.results = [] → e.errors = []) := by
  unfold survived at came
  split at came
  · cases came
  · next some' =>
    refine ⟨(Except.ok.inj came).symm, fun none' => ?_⟩
    cases errors : e.errors with
    | nil => rfl
    | cons f fs => exact absurd errors (some' f fs none')

/-- Files that were gone through one by one are among the results or the faults, and there are
results if there are files. -/
theorem sequential_eq_ok {s : σ} {ended : Execution α}
    (came : (sequential w work files s).outcome = .ok ended) :
    ended.results = successes work files ∧ ended.errors = failures work files ∧
      (ended.results = [] → files = []) := by
  have whole := closed_eq_ok came
  rw [sequential, closed_outcome _ whole] at came
  obtain rfl := goSequential_eq_ok whole
  obtain ⟨_, survives⟩ := survived_eq_ok came
  have results : (through work { batches := if files.isEmpty then 0 else 1 } files).results =
      successes work files := List.nil_append _
  have errors : (through work { batches := if files.isEmpty then 0 else 1 } files).errors =
      failures work files := List.nil_append _
  refine ⟨results, errors, fun none' => ?_⟩
  exact eq_nil_of_through (results ▸ none') (errors ▸ survives none')

end Execution

/-- A file that could be read and cut, and in whose metadata rules find nothing wrong. -/
structure Intake.Passes (i : Intake) (rules : RuleSet) (path : String) : Prop where
  clear : ∃ place text found metadata, Document.checkPath i.suffixes (.str path) = .ok place ∧
    i.read place = .ok text ∧ i.extract text place = .ok found ∧
    flattenAll i.flatten found.metadata = .ok metadata ∧
    rules.violations (.map metadata) = .ok []

theorem Intake.validate_eq_ok {rules : RuleSet} {metadata : Entries} {path : String} :
    validate (some rules) metadata path = .ok () ↔ rules.violations (.map metadata) = .ok [] := by
  unfold validate
  dsimp only
  split
  · next none' =>
    rw [RuleSet.violations, List.isEmpty_iff.mp none']
    exact iff_of_true rfl rfl
  · refine ⟨RuleSet.violations_of_validate, fun clear => ?_⟩
    rw [RuleSet.validate_map clear, if_pos rfl]

/-- A document is made of exactly the files that pass. -/
theorem Intake.process_passes (i : Intake) (rules : RuleSet) (path : String) :
    (∃ d, (i.process (some rules) (.str path)).result = .ok d) ↔ i.Passes rules path := by
  rw [process_result]
  constructor
  · rintro ⟨d, came⟩
    obtain ⟨place, checked, came⟩ := bind_eq_ok.mp came
    obtain ⟨text, read, came⟩ := bind_eq_ok.mp came
    obtain ⟨found, extracted, came⟩ := bind_eq_ok.mp came
    obtain ⟨metadata, flattened, came⟩ := bind_eq_ok.mp came
    obtain ⟨_, passed, _⟩ := bind_eq_ok.mp came
    exact ⟨place, text, found, metadata, checked, read, extracted, lift_eq_ok.mp flattened,
      validate_eq_ok.mp passed⟩
  · rintro ⟨place, text, found, metadata, checked, read, extracted, flattened, clear⟩
    refine ⟨⟨place, metadata, found.body⟩, ?_⟩
    refine bind_eq_ok.mpr ⟨place, checked, bind_eq_ok.mpr ⟨text, read, ?_⟩⟩
    refine bind_eq_ok.mpr ⟨found, extracted, ?_⟩
    refine bind_eq_ok.mpr ⟨metadata, lift_eq_ok.mpr flattened, ?_⟩
    exact bind_eq_ok.mpr ⟨(), validate_eq_ok.mpr clear, rfl⟩

/-- Documents come of files that pass. -/
theorem Intake.exists_passes {i : Intake} {rules : RuleSet} {files : List String} {d : Document}
    (brought : d ∈ Execution.successes (fun path => i.process (some rules) (.str path)) files) :
    ∃ path ∈ files, i.Passes rules path := by
  obtain ⟨path, inside, came⟩ := Execution.exists_of_mem_successes brought
  exact ⟨path, inside, (i.process_passes rules path).mp ⟨d, came⟩⟩

/-- A file passes or is among the faults. -/
theorem Intake.passes_or_fails (i : Intake) (rules : RuleSet) {files : List String} {path : String}
    (inside : path ∈ files) : i.Passes rules path ∨
      ∃ e, (i.process (some rules) (.str path)).result = .error e ∧ e.toFault (some path) ∈
        Execution.failures (fun path => i.process (some rules) (.str path)) files := by
  cases came : (i.process (some rules) (.str path)).result with
  | ok d => exact .inl ((i.process_passes rules path).mp ⟨d, came⟩)
  | error e => exact .inr ⟨e, rfl, Execution.mem_failures inside came⟩

namespace Pipeline

open Execution

/-- Processing that is not done in parallel brings in a document or a fault for each file, and
fails where there are files but no document. -/
theorem processed_eq_ok {s : Session} {files : List String} {rules : Option RuleSet}
    {bounds : Option Bounds} {options : Option ProcessingConfig} {o : ProcessingOutcome}
    (came : (processed s files rules bounds options).1 = .ok o)
    (alone : o.strategy.parallel = false) :
    ∃ schema flatten, s.pipeline.schema = some schema ∧ schema.flattenPaths = .ok flatten ∧
      o.documents = successes (workOf s rules flatten) files ∧
      o.errors = failures (workOf s rules flatten) files ∧ (o.documents = [] → files = []) := by
  unfold processed at came
  split at came
  · cases came
  · next schema known =>
    split at came
    · cases came
    · split at came
      · cases came
      · next m g _ =>
        split at came
        · cases came
        · next strategy _ =>
          split at came
          · cases came
          · next flatten flattened =>
            obtain ⟨rfl, _, e, gone, documents, errors⟩ := finished_eq_ok came
            rw [← documents, ← errors]
            refine ⟨schema, flatten, known, flattened, ?_⟩
            change (executed s.finishing m _ (workOf s rules flatten) files g).1 = .ok e at gone
            unfold executed at gone
            split at gone
            · next none' =>
              obtain rfl := Except.ok.inj gone
              obtain rfl := List.isEmpty_iff.mp none'
              exact ⟨rfl, rfl, fun _ => rfl⟩
            · rw [alone] at gone
              exact sequential_eq_ok gone

end Pipeline

namespace Session

open Pipeline

variable {s : Session}

/-- A run of a new pipeline that goes well had settings that hold, and came to something. -/
theorem run_eq_ok (new : s.pipeline.machine = {}) (well : s.run.1.ok = true) :
    ∃ config o, s.pipeline.config.validate = (config, .ok ()) ∧
      attempted config (s.checked config) = .ok o ∧ s.run.1.outcome = some o := by
  rcases valid : s.pipeline.config.validate with ⟨config, e | ⟨⟩⟩
  · have refused := run_refused (v := s.pipeline.config.mode) new valid
    exact nomatch well.symm.trans (congrArg Showing.ok refused)
  · cases came : attempted config (s.checked config) with
    | error e => exact nomatch well.symm.trans (run_attempted_error new valid came).1
    | ok o => exact ⟨config, o, rfl, came, run_attempted_ok new valid came⟩

end Session

namespace Command

open Pipeline Execution

variable {s : Surroundings} {c : Console}

/-- The console once an error was told of. -/
def Console.complained (error : Option Fault) (c : Console) : Console :=
  match error with
  | some f => { c with logging := c.logging.write errorStream ("Error: " ++ f.message ++ "\n") }
  | none => c

theorem Console.complained_output (error : Option Fault) (c : Console) :
    (c.complained error).output = c.output := by
  cases error <;> rfl

/-- A summary is printed, or nothing is. -/
theorem tell_run (s : Surroundings) (r : RunReport) (c : Console) : (tell s r false).run c =
    match Json.write .console (r.summary s.milliseconds) with
    | .error m => (.error (.mishap m), c)
    | .ok text => (.ok (if r.ok then 0 else 1), (c.printed text).complained r.error) := by
  obtain ⟨rest, summed, complains⟩ : ∃ rest : Unit → Act Nat,
      tell s r false = Act.printJson (r.summary s.milliseconds) >>= rest ∧
      ∀ c', (rest ()).run c' = (.ok (if r.ok then 0 else 1), c'.complained r.error) := by
    unfold tell
    cases r.output <;> exact ⟨_, rfl, fun c' => by cases r.error <;> rfl⟩
  rw [summed]
  cases written : Json.write .console (r.summary s.milliseconds) with
  | error m =>
    have failed : (Act.printJson (r.summary s.milliseconds)).run c = (.error (.mishap m), c) := by
      unfold Act.printJson
      rw [written]
      rfl
    exact Act.run_bind_error failed
  | ok text =>
    rw [Act.run_bind_ok (Act.run_printJson written c), complains]

theorem applyLogging_run (l : LoggingConfig) (c : Console) : ∃ r logging,
    (Act.applyLogging l).run c = (r, { c with logging }) := by
  unfold Act.applyLogging
  rw [Act.run_bind_ok (Act.run_get c)]
  dsimp only
  generalize c.logging.configure l errorStream = r
  obtain ⟨logging, m | name⟩ := r <;> exact ⟨_, logging, rfl⟩

theorem Act.run_tryCatch {α : Type} (x : Act α) (handle : Failure → Act α) (c : Console) :
    (tryCatch x handle).run c = match x.run c with
    | (.ok a, c') => (.ok a, c')
    | (.error e, c') => (handle e).run c' := by
  change (tryCatch (Act.ofOutcome (x.run c).1) handle).run (x.run c).2 = _
  rcases x.run c with ⟨e | a, c'⟩ <;> rfl

/-- A fault in what the line asks for is told of; nothing else is held up. -/
theorem execute_run (s : Surroundings) (line : Line) (c : Console) : (execute s line).run c =
    match (carryOut s line).run c with
    | (.error (.fault f), c') => (.ok 1, c'.complained (some f))
    | ended => ended := by
  unfold execute
  rw [Act.run_tryCatch]
  rcases (carryOut s line).run c with ⟨(f | m) | code, c'⟩ <;> rfl

/-- A validation, as the build that it is. -/
def checkup (schema : String) (patterns : List String) : BuildOptions :=
  { schema, patterns, mode := Mode.validationOnly.name }

/-- How a validation takes in files. -/
def intake (t : FileTree) (flatten : List String) : Intake where
  read := FileReader.read {} t
  extract text path := Frontmatter.extract true text (some path)
  flatten := flatten

variable {level schema : String} {patterns : List String} {code : Except Failure Nat} {c' : Console}

/-- Where the log level is one, a validation prints the summary of its run. -/
theorem validate_run (s : Surroundings) (schema : String) (patterns : List String)
    {logging : Logging}
    (logged : (Act.applyLogging (startLogging level)).run c = (.ok (), { c with logging })) :
    ∃ c₁ : Console, c₁.output = c.output ∧
      (execute s ⟨level, .validate schema patterns⟩).run c =
        match Json.write .console
          (((checkup schema patterns).session s c).run.1.summary s.milliseconds) with
        | .error m => (.error (.mishap m), c₁)
        | .ok text => (.ok (if ((checkup schema patterns).session s c).run.1.ok then 0 else 1),
            (c₁.printed text).complained ((checkup schema patterns).session s c).run.1.error) := by
  obtain ⟨c₁, ran, kept⟩ := runBuild_run s (checkup schema patterns) { c with logging }
  have told : (validate s schema patterns).run { c with logging } =
      (tell s ((checkup schema patterns).session s c).run.1 false).run c₁ := Act.run_bind_ok ran
  refine ⟨c₁, kept, ?_⟩
  rw [execute_run, carryOut, Act.run_bind_ok logged]
  dsimp only
  rw [told, tell_run]
  cases Json.write .console
    (((checkup schema patterns).session s c).run.1.summary s.milliseconds) <;> rfl

/-- A validation ends with code 1, or with the summary of its run. -/
theorem validate_ends
    (ended : (execute s ⟨level, .validate schema patterns⟩).run c = (code, c')) :
    exitCode code = 1 ∨ ∃ text,
      code = .ok (if ((checkup schema patterns).session s c).run.1.ok then 0 else 1) ∧
      Json.write .console (((checkup schema patterns).session s c).run.1.summary s.milliseconds) =
        .ok text ∧ c'.output = c.output ++ (text ++ "\n") := by
  obtain ⟨r, logging, logged⟩ := applyLogging_run (startLogging level) c
  cases r with
  | error e =>
    rw [execute_run, carryOut, Act.run_bind_error logged] at ended
    cases e <;> (cases ended; exact .inl rfl)
  | ok =>
    obtain ⟨c₁, kept, ran⟩ := validate_run s schema patterns logged
    rw [ran] at ended
    cases written : Json.write .console
        (((checkup schema patterns).session s c).run.1.summary s.milliseconds) with
    | error m =>
      rw [written] at ended
      cases ended
      exact .inl rfl
    | ok text =>
      rw [written] at ended
      cases ended
      refine .inr ⟨text, rfl, rfl, ?_⟩
      rw [Console.complained_output]
      exact congrArg (· ++ (text ++ "\n")) kept

variable {config : Config}

theorem checkup_mode (valid : (checkup schema patterns).settings.validate = (config, .ok ())) :
    config.mode = .str Mode.validationOnly.name := by
  obtain ⟨moded, profiled, mode, profile, _, format⟩ := Config.validate_eq_ok.mp valid
  obtain ⟨_, m, told, rfl⟩ := Config.withMode_eq_ok.mp mode
  obtain rfl : Mode.validationOnly = m := Except.ok.inj ((Mode.ofValue_name _).symm.trans told)
  obtain ⟨_, _, _, _, rfl⟩ := Config.withFormat_eq_ok format
  rcases Config.withProfile_eq_ok.mp profile with ⟨_, rfl⟩ | ⟨_, _, _, rfl⟩ <;> rfl

/-- A validation is not done in parallel. -/
theorem checkup_alone (valid : (checkup schema patterns).settings.validate = (config, .ok ()))
    {found : Schema} {files : List String} (rules : Option RuleSet) {o : ProcessingOutcome}
    (came : (processed (knowing found (((checkup schema patterns).session s c).checked config))
      files rules none none).1 = .ok o) : o.strategy.parallel = false := by
  obtain ⟨least, workers, _, profile⟩ := planProfile_checked valid
  have chosen := processed_strategy came
  rw [strategyFor_own (Config.validate_kept valid).processing profile] at chosen
  rw [← Except.ok.inj chosen]

/-- What a validation that goes well comes to: it found the rules and the files, and each file is
among the documents or the faults. -/
theorem checkup_eq_ok (well : ((checkup schema patterns).session s c).run.1.ok = true) :
    ∃ found set flatten files outcome,
      (Schema.attempt c.tree (FileName.ofString schema)).result = .ok found ∧
      found.rules = .ok set ∧ found.flattenPaths = .ok flatten ∧
      ((checkup schema patterns).search c).result = .ok files ∧
      ((checkup schema patterns).session s c).run.1.outcome = some outcome ∧
      outcome.documents =
        successes (fun path => (intake c.tree flatten).process (some set) (.str path)) files ∧
      outcome.errors =
        failures (fun path => (intake c.tree flatten).process (some set) (.str path)) files ∧
      (outcome.documents = [] → files = []) := by
  obtain ⟨config, o, valid, came, outcome⟩ := Session.run_eq_ok rfl well
  obtain ⟨found, known, came⟩ := bind_eq_ok.mp came
  obtain ⟨files, listed, came⟩ := bind_eq_ok.mp came
  rw [found_build (o := checkup schema patterns) valid] at known
  rw [listed_build (o := checkup schema patterns) valid] at listed
  change (digested found config.mode files _).1 = .ok o at came
  unfold digested at came
  rw [checkup_mode valid, rulesIn_validationOnly, rulesIn, full_same] at came
  cases ruled : found.rules with
  | error e =>
    rw [ruled] at came
    cases came
  | ok set =>
    rw [ruled] at came
    have alone := checkup_alone valid (some set) came
    obtain ⟨schema', flatten, known', flattened, done⟩ := processed_eq_ok came alone
    obtain rfl : found = schema' := Option.some.inj known'
    exact ⟨found, set, flatten, files, o, known, ruled, flattened, listed, outcome, done⟩

/-- A validation ends with code 0 or 1. With code 0 it has found the schema, its rules and the
files, some file passes if there is any, and what is printed tells of each file that does not.
Where there are files and none passes it ends with code 1. -/
theorem validate_exits
    (ended : (execute s ⟨level, .validate schema patterns⟩).run c = (code, c')) :
    (exitCode code = 0 ∨ exitCode code = 1) ∧
    (exitCode code = 0 → ∃ found set flatten files outcome,
      (Schema.attempt c.tree (FileName.ofString schema)).result = .ok found ∧
      found.rules = .ok set ∧ found.flattenPaths = .ok flatten ∧
      ((checkup schema patterns).search c).result = .ok files ∧
      (files = [] ∨ ∃ path ∈ files, (intake c.tree flatten).Passes set path) ∧
      (∀ path ∈ files, (intake c.tree flatten).Passes set path ∨
        ∃ e, ((intake c.tree flatten).process (some set) (.str path)).result = .error e ∧
          e.toFault (some path) ∈ outcome.errors) ∧
      ∃ r text, RunReport.ok r = true ∧ r.outcome = some outcome ∧
        Json.write .console (r.summary s.milliseconds) = .ok text ∧
        c'.output = c.output ++ (text ++ "\n")) ∧
    ∀ found set flatten files,
      (Schema.attempt c.tree (FileName.ofString schema)).result = .ok found →
      found.rules = .ok set → found.flattenPaths = .ok flatten →
      ((checkup schema patterns).search c).result = .ok files →
      files ≠ [] → (∀ path ∈ files, ¬(intake c.tree flatten).Passes set path) →
      exitCode code = 1 := by
  rcases validate_ends ended with failed | ⟨text, rfl, written, printed⟩
  · rw [failed]
    exact ⟨.inr rfl, nofun, fun _ _ _ _ _ _ _ _ _ _ => rfl⟩
  · cases well : ((checkup schema patterns).session s c).run.1.ok with
    | false => exact ⟨.inr rfl, nofun, fun _ _ _ _ _ _ _ _ _ _ => rfl⟩
    | true =>
      obtain ⟨found, set, flatten, files, outcome, known, ruled, flattened, listed, came, documents,
        errors, survives⟩ := checkup_eq_ok well
      have some' : files = [] ∨ ∃ path ∈ files, (intake c.tree flatten).Passes set path := by
        cases brought : outcome.documents with
        | nil => exact .inl (survives brought)
        | cons d ds =>
          have brought : d ∈ outcome.documents := brought ▸ List.mem_cons_self
          exact .inr (Intake.exists_passes (documents ▸ brought))
      have told : ∀ path ∈ files, (intake c.tree flatten).Passes set path ∨
          ∃ e, ((intake c.tree flatten).process (some set) (.str path)).result = .error e ∧
            e.toFault (some path) ∈ outcome.errors := by
        rw [errors]
        exact fun path inside => Intake.passes_or_fails _ set inside
      refine ⟨.inl rfl, fun _ => ⟨found, set, flatten, files, outcome, known, ruled, flattened,
        listed, some', told, _, text, well, came, written, printed⟩, ?_⟩
      intro found' set' flatten' files' known' ruled' flattened' listed' there none'
      obtain rfl := Except.ok.inj (known.symm.trans known')
      obtain rfl := Except.ok.inj (ruled.symm.trans ruled')
      obtain rfl := Except.ok.inj (flattened.symm.trans flattened')
      obtain rfl := Except.ok.inj (listed.symm.trans listed')
      obtain rfl | ⟨path, inside, passes⟩ := some'
      · exact absurd rfl there
      · exact absurd passes (none' path inside)

end Command
end Quire
