import Quire.Command
import Quire.Proofs.Outline

/-! What a build does. It runs a new pipeline with the settings that its options come to, in
a session with the files and the gauges of the console; how that run ends is the end of its
attempt to find the schema, list the files and work them off. -/

namespace Quire

namespace Command

/-- A console after a journal was logged. -/
def Console.logged (s : Surroundings) (journal : Journal) (c : Console) : Console :=
  { c with logging := journal.foldl (fun l e =>
      l.emit e.channel.logger (.int e.note.severity.rank) (.str e.note.text) s.time) c.logging }

/-- A console after a line was printed. -/
def Console.printed (text : String) (c : Console) : Console :=
  { c with output := c.output ++ (text ++ "\n") }

namespace Act

variable {α β : Type} {x : Act α} {f : α → Act β} {c c' : Console}

theorem run_bind_ok {a : α} (came : x.run c = (.ok a, c')) : (x >>= f).run c = (f a).run c' := by
  change ExceptT.bindCont f (x.run c).1 (x.run c).2 = _
  rw [came]
  rfl

theorem run_bind_error {e : Failure} (failed : x.run c = (.error e, c')) :
    (x >>= f).run c = (.error e, c') := by
  change ExceptT.bindCont f (x.run c).1 (x.run c).2 = _
  rw [failed]
  rfl

theorem run_get (c : Console) : (get : Act Console).run c = (.ok c, c) := rfl

theorem run_printJson {v : Value} {text : String} (written : Json.write .console v = .ok text)
    (c : Console) : (printJson v).run c = (.ok (), c.printed text) := by
  unfold printJson
  rw [written]
  rfl

end Act

/-! ### Settings -/

/-- The settings that a build runs with. -/
def BuildOptions.settings (o : BuildOptions) : Config where
  schemaPath := .str o.schema
  mode := .str o.mode
  profileName := if (optionalText o.profile).truthy then optionalText o.profile else .null
  sources := .fields { patterns := .list (o.patterns.map .str) }
  processing := .fields { parallel := .bool o.parallel, workers := optionalWhole o.workers }
  output := .fields
    { path := optionalText o.output, template := optionalText o.template, format := .str o.format }

theorem BuildOptions.laidOn_eq (o : BuildOptions) : o.arguments.laidOn {} = .ok o.settings := by
  obtain ⟨schema, patterns, output, template, format, parallel, workers, profile, mode⟩ := o
  cases output <;> cases template <;> cases parallel <;> cases workers <;> rfl

/-! ### The session of a build -/

/-- A new pipeline with settings, in a session with the files and the gauges at hand. -/
def launched (s : Surroundings) (c : Console) (config : Config) (bound : SourceConfig) :
    Session where
  pipeline :=
    { config, bound
      profile := config.profile
      schema := none
      ownSchema := none
      replacement := {}
      renderer := {} }
  tree := c.tree
  gauges := s.gauges

/-- The session that a build runs in. -/
def BuildOptions.session (o : BuildOptions) (s : Surroundings) (c : Console) : Session :=
  launched s c o.settings { patterns := .list (o.patterns.map .str) }

theorem runBuild_run (s : Surroundings) (o : BuildOptions) (c : Console) :
    ∃ c', (runBuild s o).run c = (.ok (o.session s c).run.1, c') ∧ c'.output = c.output := by
  unfold runBuild
  rw [BuildOptions.laidOn_eq]
  exact ⟨_, rfl, rfl⟩

end Command

namespace Pipeline

variable {s : Session} {schema : Schema} {config : Config}

/-- What a run with settings comes to before anything is rendered. -/
def attempted (config : Config) (s : Session) : Outcome ProcessingOutcome := do
  let schema ← found s
  let files ← listed s
  (digested schema config.mode files (knowing schema s)).1

theorem recount_attempted_ok {o : ProcessingOutcome} (came : attempted config s = .ok o) :
    (remains (recount config s)).outcome = some o := by
  obtain ⟨schema, known, came⟩ := bind_eq_ok.mp came
  obtain ⟨files, looked, came⟩ := bind_eq_ok.mp came
  rw [recount_eq, survey_eq, known]
  dsimp only
  rw [looked]
  dsimp only
  generalize digested schema config.mode files (knowing schema s) = r at came ⊢
  obtain ⟨e | o', g⟩ := r
  · cases came
  · obtain rfl := Except.ok.inj came
    exact (delivered (surveyed schema o' g s) config schema o'.data).outcome

theorem recount_attempted_error {e : Failure} (failed : attempted config s = .error e) :
    ∃ stop, recount config s = .error stop ∧ stop.cause = e ∧ stop.left.outcome = s.outcome := by
  rw [recount_eq, survey_eq]
  rcases bind_eq_error.mp failed with known | ⟨schema, known, failed⟩
  · rw [known]
    exact ⟨_, rfl, rfl, rfl⟩
  · rw [known]
    dsimp only
    rcases bind_eq_error.mp failed with looked | ⟨files, looked, failed⟩
    · rw [looked]
      exact ⟨_, rfl, rfl, rfl⟩
    · rw [looked]
      dsimp only
      generalize digested schema config.mode files (knowing schema s) = r at failed ⊢
      obtain ⟨e' | o', g⟩ := r
      · obtain rfl := Except.error.inj failed
        exact ⟨_, rfl, rfl, rfl⟩
      · cases failed

end Pipeline

namespace Session

open Pipeline

variable {s : Session} {config : Config}

/-- The session in which a run goes on once its settings were checked. -/
def checked (config : Config) (s : Session) : Session := settled config s.ready.bare

/-- With settings that hold a new pipeline comes to what is told from the schema on. -/
theorem shown_checked (new : s.pipeline.machine = {})
    (valid : s.pipeline.config.validate = (config, .ok ())) :
    Shown config.chosenMode s.run (recount config (s.checked config)) := by
  have idle : s.ready.pipeline.machine.state = .idle := by
    unfold ready
    rw [new]
    rfl
  have own : s.Own := by
    intro c begun
    rw [new] at begun
    cases begun
  have shown := run_shown (new ▸ Machine.Reached.new) own
  rw [story_idle idle, tale_eq, show s.ready.pipeline.config = s.pipeline.config from rfl,
    valid] at shown
  exact shown

theorem run_checked (new : s.pipeline.machine = {})
    (valid : s.pipeline.config.validate = (config, .ok ())) :
    Showing.ofRun s.run = .ofStory config.chosenMode (recount config (s.checked config)) :=
  (shown_checked new valid).showing.1

theorem run_attempted_ok (new : s.pipeline.machine = {})
    (valid : s.pipeline.config.validate = (config, .ok ())) {o : ProcessingOutcome}
    (came : attempted config (s.checked config) = .ok o) : s.run.1.outcome = some o := by
  have shown := congrArg Showing.outcome (run_checked new valid)
  rw [(Showing.ofStory_left _ _).1, recount_attempted_ok came] at shown
  exact shown

theorem run_attempted_error (new : s.pipeline.machine = {})
    (valid : s.pipeline.config.validate = (config, .ok ())) {e : Failure}
    (failed : attempted config (s.checked config) = .error e) :
    s.run.1.ok = false ∧ s.run.1.outcome = none ∧ s.run.1.error = some (e.toFault none) := by
  have shown := run_checked new valid
  obtain ⟨stop, stopped, rfl, left⟩ := recount_attempted_error failed
  rw [stopped] at shown
  exact ⟨congrArg Showing.ok shown, (congrArg Showing.outcome shown).trans left,
    congrArg Showing.error shown⟩

end Session

/-! ### A room with two files -/

namespace Command

/-- A file whose text is in ASCII. -/
def asciiFile (text : String) : FileTree.Node := .file (text.toList.map fun c => c.toNat.toUInt8)

/-- A schema that asks for a title, a file with one and a file without. -/
def room : Console where
  tree := ⟨["home"], [(["home"], .folder), (["home", "docs"], .folder),
    (["home", "s.json"], asciiFile "\x7b\"required\": [\"title\"], \"properties\": \x7b\"title\": \x7b\x7d\x7d\x7d"),
    (["home", "docs", "a.md"], asciiFile "+++\ntitle = \"x\"\n+++\n"),
    (["home", "docs", "b.md"], asciiFile "+++\nname = \"y\"\n+++\n")]⟩

/-- Gauges that stand still, and no time that passes. -/
def quiet : Surroundings := ⟨.still, "", .int 0⟩

end Command
end Quire
