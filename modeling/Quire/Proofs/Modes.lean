import Quire.Proofs.Paired
import Quire.Proofs.Recovery

/-! One pipeline in the three modes. Up to the checked data a full run and a validating one
are the same, and a full run whose files all pass the rules is matched by one that only fills
the template. -/

namespace Quire

namespace Mode

/-- Before the files are read the modes do not part. -/
theorem upTo_early {k : RunState.Kind}
    (early : k ∈ [.loadingSchema, .schemaLoaded, .parsingFrontmatter]) (mode : Mode) :
    mode.upTo k = Mode.full.upTo k ∧ .dataValidated ∉ mode.upTo k := by
  simp only [List.mem_cons, List.not_mem_nil, or_false] at early
  rcases early with rfl | rfl | rfl <;> cases mode <;> decide

theorem upTo_late {k : RunState.Kind}
    (late : k ∈ [.dataValidated, .loadingTemplate, .generatingOutput, .outputGenerated])
    (mode : Mode) : .dataValidated ∈ mode.upTo k := by
  simp only [List.mem_cons, List.not_mem_nil, or_false] at late
  rcases late with rfl | rfl | rfl | rfl <;> cases mode <;> decide

theorem dataValidated_mem_states (mode : Mode) : .dataValidated ∈ mode.states := by
  cases mode <;> decide

end Mode

/-- Rules only look at what comes of a file without them. -/
theorem Intake.process_checked (i : Intake) (rules : Option RuleSet) (path : Value) :
    (i.process rules path).result = (do
      let d ← (i.process none path).result
      validate rules d.metadata d.path
      return d) := by
  have unchecked (metadata : Entries) (path : String) : validate none metadata path = pure () := rfl
  simp only [process_result, unchecked, bind_assoc, pure_bind]

namespace Session

/-- The same pipeline with another mode in its settings. -/
def inMode (v : Value) (s : Session) : Session :=
  { s with pipeline := { s.pipeline with config := s.pipeline.config.inMode v } }

end Session

namespace Pipeline

open Execution Gauges

/-- A file that comes through without the rules of the schema but not with them, and what is told
of it then. -/
def Breaks (s : Session) (schema : Schema) (path : String) (f : Fault) : Prop :=
  ∃ rules d e, schema.rules = .ok rules ∧
    (knowing schema s).pipeline.fate s.tree none path = .ok d ∧
    (knowing schema s).pipeline.fate s.tree (some rules) path = .error e ∧
    f = e.toFault (some path)

variable {s : Session} {schema : Schema}

/-- A file comes to the same with the rules as without them, unless it breaks them. -/
theorem agrees_breaks {flatten : List String} (flattened : schema.flattenPaths = .ok flatten)
    {rules : RuleSet} (ruled : schema.rules = .ok rules) (path : String) :
    Agrees (Breaks s schema path) (workOf (knowing schema s) (some rules) flatten)
      (workOf (knowing schema s) none flatten) path := by
  have checked := Intake.process_checked ((knowing schema s).pipeline.intake s.tree flatten)
    (some rules) (.str path)
  have fate (rules : Option RuleSet) : (knowing schema s).pipeline.fate s.tree rules path =
      (workOf (knowing schema s) rules flatten path).result :=
    congrFun (fate_known (p := (knowing schema s).pipeline) rfl flattened) path
  change (workOf (knowing schema s) (some rules) flatten path).result =
    (workOf (knowing schema s) none flatten path).result >>= _ at checked
  cases plain : (workOf (knowing schema s) none flatten path).result with
  | error e =>
    rw [plain] at checked
    exact .of_result (plain.trans checked.symm)
  | ok d =>
    rw [plain] at checked
    cases passed : Intake.validate (some rules) d.metadata d.path with
    | ok =>
      refine .of_result (plain.trans (checked.trans ?_).symm)
      exact bind_eq_ok.mpr ⟨d, rfl, bind_eq_ok.mpr ⟨(), passed, rfl⟩⟩
    | error e =>
      have failed : (workOf (knowing schema s) (some rules) flatten path).result = .error e :=
        checked.trans (bind_eq_error.mpr (.inr ⟨d, rfl, bind_eq_error.mpr (.inl passed)⟩))
      exact .inr ⟨_, tryFile_of_error failed, rules, d, e, ruled, (fate none).trans plain,
        (fate (some rules)).trans failed, rfl⟩

theorem rulesIn_templateOnly (schema : Schema) :
    rulesIn schema (.str Mode.templateOnly.name) = .ok none := by
  have same : (Value.str Mode.templateOnly.name).same (.str Mode.templateOnly.name) = true := by
    decide +kernel
  rw [rulesIn, same]
  rfl

theorem full_same : (Value.str Mode.full.name).same (.str Mode.templateOnly.name) = false := by
  decide +kernel

/-- Files that are only checked are checked as in a full run. -/
theorem rulesIn_validationOnly (schema : Schema) :
    rulesIn schema (.str Mode.validationOnly.name) = rulesIn schema (.str Mode.full.name) := by
  have same : (Value.str Mode.validationOnly.name).same (.str Mode.templateOnly.name) = false := by
    decide +kernel
  rw [rulesIn, rulesIn, same, full_same]

/-- Where no file is told to break the rules, the files come to the same without them. -/
theorem digested_unruled {files : List String} {o : ProcessingOutcome} {g : Gauges} {mode : Value}
    (ruled : mode.same (.str Mode.templateOnly.name) = false)
    (came : digested schema mode files (knowing schema s) = (.ok o, g))
    (clear : ∀ path ∈ files, ∀ f, Breaks s schema path f → f ∉ o.errors) :
    digested schema (.str Mode.templateOnly.name) files (knowing schema s) = (.ok o, g) := by
  have free : rulesIn schema (.str Mode.templateOnly.name) = .ok none := rulesIn_templateOnly schema
  unfold digested at came
  rw [rulesIn, ruled] at came
  cases rules : schema.rules with
  | error e =>
    rw [rules] at came
    cases came
  | ok found =>
    rw [rules] at came
    change processed (knowing schema s) files (some found) none none = (.ok o, g) at came
    rw [digested, free]
    have akin : Akin (· = ·) (knowing schema s) (knowing schema s) := ⟨rfl, rfl, rfl, rfl, rfl, rfl⟩
    have agree : ∀ schema' flatten, some schema = some schema' →
        schema'.flattenPaths = .ok flatten → ∀ path ∈ files,
        Agrees (fun f => ∃ path ∈ files, Breaks s schema path f)
          (workOf (knowing schema s) (some found) flatten)
          (workOf (knowing schema s) none flatten) path := by
      intro schema' flatten known flattened path inside
      obtain rfl := Option.some.inj known
      refine (agrees_breaks flattened rules path).imp_right fun ⟨f, failed, broken⟩ => ?_
      exact ⟨f, failed, path, inside, broken⟩
    obtain ⟨same, after⟩ := processed_alike paired_eq akin agree
      (.inr ⟨o, congrArg Prod.fst came, fun f told ⟨path, inside, broken⟩ =>
        clear path inside f broken told⟩)
    rw [came] at same after
    exact Prod.ext same after.symm

/-- A template path that cannot be told is one that the schema declares. -/
theorem places_eq_error (config : Config) {output : OutputConfig}
    (there : config.output = .fields output) {m : Mishap}
    (failed : places config schema = .error m) : schema.templatePath = .error m := by
  unfold places at failed
  rw [there] at failed
  rcases bind_eq_error.mp (show (templatePath output schema >>= _) = _ from failed) with
    failed | ⟨_, _, done⟩
  · unfold templatePath at failed
    split at failed
    · cases failed
    · rcases bind_eq_error.mp failed with failed | ⟨declared, _, done⟩
      · exact failed
      · split at done
        · split at done <;> cases done
        · cases done
  · cases done

end Pipeline

namespace Session

open Pipeline

variable {s : Session} {c : Config}

/-- The session in which a run in a mode looks for its files. -/
def begun (c : Config) (m : Mode) (s : Session) : Session :=
  settled (c.inMode (.str m.name)) s.ready.bare

theorem chosenMode_inMode (c : Config) (m : Mode) : (c.inMode (.str m.name)).chosenMode = m :=
  Config.chosenMode_eq (Mode.ofValue_name m)

theorem kept_inMode {v w : Value}
    (valid : (s.pipeline.config.inMode v).validate = (c.inMode w, .ok ())) (x : Value) :
    Config.Kept s.pipeline.config (c.inMode x) := by
  have kept := Config.validate_kept valid
  exact ⟨kept.schemaPath, kept.sources, kept.processing, kept.bounds⟩

theorem found_begun {v w : Value}
    (valid : (s.pipeline.config.inMode v).validate = (c.inMode w, .ok ())) (m : Mode) :
    found (s.begun c m) = found s :=
  found_settled (kept_inMode valid _)

theorem listed_begun {v w : Value}
    (valid : (s.pipeline.config.inMode v).validate = (c.inMode w, .ok ())) (m : Mode) :
    listed (s.begun c m) = listed s :=
  listed_settled (kept_inMode valid _)

/-- With settings that hold a run in a mode shows what is told from the schema on. -/
theorem run_inMode (new : s.pipeline.machine = {}) {v : Value} {m : Mode}
    (valid : (s.pipeline.config.inMode v).validate = (c.inMode (.str m.name), .ok ())) :
    Showing.ofRun (s.inMode v).run =
      .ofStory m (recount (c.inMode (.str m.name)) (s.begun c m)) := by
  have shown := (run_new (s := s.inMode v) new).1
  rw [show (s.inMode v).pipeline.config = s.pipeline.config.inMode v from rfl, tale_eq,
    show (s.inMode v).ready.pipeline.config = s.pipeline.config.inMode v from rfl, valid,
    chosenMode_inMode] at shown
  exact shown

/-- Settings that do not hold end a run before it has begun. -/
theorem run_refused (new : s.pipeline.machine = {}) {v : Value} {e : Failure}
    (failed : (s.pipeline.config.inMode v).validate = (c, .error e)) :
    Showing.ofRun (s.inMode v).run =
      ⟨false, none, none, none, some (e.toFault none), [.idle, .failed]⟩ := by
  have shown := (run_new (s := s.inMode v) new).1
  rw [tale_eq, show (s.inMode v).ready.pipeline.config = s.pipeline.config.inMode v from rfl,
    failed] at shown
  refine shown.trans ?_
  simp only [Showing.ofStory, Mode.upTo_idle]
  rfl

/-- Up to the checked data a run that only checks goes as a full one. -/
theorem survey_validationOnly {memory : Outcome Value} {time : Value}
    (steady : s.gauges.Steady memory time) (c : Config) :
    EndsAlike (fun p u v => Surveyed (fun g h => g = h ∧ g.Steady memory time)
        (c.inMode (.str Mode.full.name)) (s.begun c .full) (s.begun c .validationOnly) p.1 p.2 u v)
      (survey (c.inMode (.str Mode.full.name)) (s.begun c .full))
      (survey (c.inMode (.str Mode.validationOnly.name)) (s.begun c .validationOnly)) := by
  refine survey_alike rfl rfl ⟨rfl, rfl⟩ fun schema files _ _ => ?_
  have same : digested schema (.str Mode.validationOnly.name) files
      (knowing schema (s.begun c .validationOnly)) =
        digested schema (.str Mode.full.name) files (knowing schema (s.begun c .full)) := by
    unfold digested
    rw [rulesIn_validationOnly]
    rfl
  change (digested schema (.str Mode.validationOnly.name) files _).1 =
      (digested schema (.str Mode.full.name) files _).1 ∧
    (digested schema (.str Mode.full.name) files _).2 =
      (digested schema (.str Mode.validationOnly.name) files _).2 ∧ _
  rw [same]
  exact ⟨rfl, rfl, digested_steady (s := knowing schema (s.begun c .full)) steady schema _ files⟩

/-- A run that only checks has its output once the data is checked, unless the template that it
has no use for cannot be told, or memory cannot. -/
theorem deliver_validationOnly {memory : Outcome Value} {time : Value} {output : OutputConfig}
    (there : c.output = .fields output) (schema : Schema) (data : Entries) {u : Session}
    (steady : u.gauges.Steady memory time) :
    (∃ left, deliver (c.inMode (.str Mode.validationOnly.name)) schema data u.bare =
      .ok (RunState.validationOutput, left)) ∨
    (∃ e, memory.bind RunState.megabytes = .error e) ∨ ∃ m, schema.templatePath = .error m := by
  rw [deliver_eq]
  cases known : places (c.inMode (.str Mode.validationOnly.name)) schema with
  | error m => exact .inr (.inr ⟨m, places_eq_error (c.inMode _) there known⟩)
  | ok r =>
    obtain ⟨output', path⟩ := r
    dsimp only
    rw [texted, if_pos (chosenMode_inMode c .validationOnly)]
    have read : u.gauges.megabytes = memory.bind RunState.megabytes :=
      congrArg (·.bind RunState.megabytes) (steady.memory _)
    simp only [rounded]
    rw [show u.bare.gauges.megabytes = _ from read]
    cases told : memory.bind RunState.megabytes with
    | error e => exact .inr (.inl ⟨e, rfl⟩)
    | ok size => exact .inl ⟨_, rfl⟩

theorem checked_deliver (mode : Mode) (config : Config) (schema : Schema) (data : Entries)
    (u : Session) :
    .dataValidated ∈ (Showing.ofStory mode (deliver config schema data u.bare)).history := by
  cases came : deliver config schema data u.bare with
  | ok r => exact mode.dataValidated_mem_states
  | error stop => exact List.mem_append_left _ (Mode.upTo_late (deliver_late u came) mode)

theorem outcome_deliver (mode : Mode) (config : Config) (schema : Schema) (data : Entries)
    (u : Session) :
    (Showing.ofStory mode (deliver config schema data u.bare)).outcome = u.outcome :=
  (Showing.ofStory_left _ _).1.trans (delivered u config schema data).outcome

/-- Before the checked data a run that only checks stops as a full one does. -/
theorem showing_early {phase : RunState.Kind} {e : Failure} {s t : Session}
    (early : phase ∈ [.loadingSchema, .schemaLoaded, .parsingFrontmatter]) (shows : s.Shows t) :
    Showing.ofStory .validationOnly (.error ⟨phase, e, t⟩) =
        .ofStory .full (.error ⟨phase, e, s⟩) ∧
      .dataValidated ∉ (Showing.ofStory .full (.error ⟨phase, e, s⟩)).history := by
  obtain ⟨same, outside⟩ := Mode.upTo_early early .validationOnly
  refine ⟨?_, ?_⟩
  · simp only [Showing.ofStory, shows.outcome, shows.outputPath, same]
  · simp [Showing.ofStory, ← same, outside]

/-- A full run and one that only checks stop together before the checked data, or get there with
the same outcome. -/
theorem run_checks {memory : Outcome Value} {time : Value} (new : s.pipeline.machine = {})
    (steady : s.gauges.Steady memory time) {v w : Value} (full : Mode.ofValue v = .ok .full)
    (checking : Mode.ofValue w = .ok .validationOnly) :
    (Showing.ofRun (s.inMode w).run = Showing.ofRun (s.inMode v).run ∧
      (Showing.ofRun (s.inMode v).run).ok = false ∧
      .dataValidated ∉ (Showing.ofRun (s.inMode v).run).history) ∨
    (.dataValidated ∈ (Showing.ofRun (s.inMode v).run).history ∧
      .dataValidated ∈ (Showing.ofRun (s.inMode w).run).history ∧
      (∃ o, (Showing.ofRun (s.inMode v).run).outcome = some o ∧
        (Showing.ofRun (s.inMode w).run).outcome = some o) ∧
      ((Showing.ofRun (s.inMode w).run).ok = true ∨
        (∃ e, memory.bind RunState.megabytes = .error e) ∨
        ∃ schema m, found s = .ok schema ∧ schema.templatePath = .error m)) := by
  rcases Config.validate_modes s.pipeline.config with ⟨e, fails⟩ | ⟨c, holds⟩
  · refine .inl ?_
    obtain ⟨_, failed⟩ := fails v _ full
    obtain ⟨_, failed'⟩ := fails w _ checking
    rw [run_refused new failed, run_refused new failed']
    exact ⟨rfl, rfl, by simp⟩
  · rw [run_inMode new (holds v _ full), run_inMode new (holds w _ checking), recount_eq,
      recount_eq]
    have ends := survey_validationOnly steady c (s := s)
    cases came : survey (c.inMode (.str Mode.full.name)) (s.begun c .full) with
    | error stop =>
      have early := survey_early _ came
      rw [came] at ends
      generalize survey (c.inMode (.str Mode.validationOnly.name)) _ = l at ends
      cases ends with
      | stopped shows =>
        obtain ⟨same, outside⟩ := showing_early early shows
        exact .inl ⟨same, rfl, outside⟩
    | ok r =>
      rw [came] at ends
      generalize survey (c.inMode (.str Mode.validationOnly.name)) _ = l at ends
      cases ends with
      | @done p _ _ read =>
        obtain ⟨known, _, o, g, _, _, _, _, rfl, rfl, rfl, steady⟩ := read
        obtain ⟨_, _, _, output, there⟩ := Config.validate_groups (holds w _ checking)
        refine .inr ⟨?_, ?_, ⟨o, ?_, ?_⟩, ?_⟩
        · exact checked_deliver _ _ p.1 p.2 (surveyed p.1 o g (s.begun c .full))
        · exact checked_deliver _ _ p.1 p.2 (surveyed p.1 o g (s.begun c .validationOnly))
        · exact outcome_deliver _ _ p.1 p.2 (surveyed p.1 o g (s.begun c .full))
        · exact outcome_deliver _ _ p.1 p.2 (surveyed p.1 o g (s.begun c .validationOnly))
        · rw [found_begun (holds v _ full)] at known
          refine (deliver_validationOnly (c := c) there p.1 p.2
            (u := surveyed p.1 o g (s.begun c .validationOnly)) steady).imp ?_ (.imp_right ?_)
          · rintro ⟨left, delivered⟩
            exact congrArg (fun l => (Showing.ofStory .validationOnly l).ok) delivered
          · rintro ⟨m, failed⟩
            exact ⟨p.1, m, known, failed⟩

/-- Files that come to the same without rules are surveyed as in a full run. -/
theorem survey_templateOnly {schema : Schema} {files : List String} {r : Outcome ProcessingOutcome}
    {g : Gauges} (known : found (s.begun c .full) = .ok schema)
    (looked : listed (s.begun c .full) = .ok files)
    (read : digested schema (.str Mode.full.name) files (knowing schema (s.begun c .full)) = (r, g))
    (same : digested schema (.str Mode.templateOnly.name) files
      (knowing schema (s.begun c .full)) = (r, g)) :
    EndsAlike (fun p u v => Surveyed (· = ·) (c.inMode (.str Mode.full.name)) (s.begun c .full)
        (s.begun c .templateOnly) p.1 p.2 u v)
      (survey (c.inMode (.str Mode.full.name)) (s.begun c .full))
      (survey (c.inMode (.str Mode.templateOnly.name)) (s.begun c .templateOnly)) := by
  refine survey_alike rfl rfl ⟨rfl, rfl⟩ fun schema' files' known' looked' => ?_
  obtain rfl := Except.ok.inj (known.symm.trans known')
  obtain rfl := Except.ok.inj (looked.symm.trans looked')
  change (digested schema (.str Mode.templateOnly.name) files
      (knowing schema (s.begun c .full))).1 = _ ∧
    _ = (digested schema (.str Mode.templateOnly.name) files (knowing schema (s.begun c .full))).2
  rw [same]
  exact ⟨(congrArg Prod.fst read).symm, congrArg Prod.snd read⟩

/-- What comes of the same outcome is put out in the same way. -/
theorem deliver_templateOnly (c : Config) (schema : Schema) (o : ProcessingOutcome) (g : Gauges)
    (s : Session) : EndsAlike (fun _ => Shows)
      (deliver (c.inMode (.str Mode.full.name)) schema o.data
        (surveyed schema o g (s.begun c .full)))
      (deliver (c.inMode (.str Mode.templateOnly.name)) schema o.data
        (surveyed schema o g (s.begun c .templateOnly))) := by
  have renders (m : Mode) (other : m ≠ .validationOnly) :
      (c.inMode (.str m.name)).chosenMode ≠ .validationOnly := by
    rwa [chosenMode_inMode]
  refine deliver_alike (s := surveyed schema o g (s.begun c .full))
    (t := surveyed schema o g (s.begun c .templateOnly)) rfl ?_ (fun _ _ _ => ?_) ⟨rfl, rfl⟩ rfl
  · exact iff_of_false (renders .templateOnly nofun) (renders .full nofun)
  · exact ⟨rfl, rfl, fun _ _ => rfl⟩

/-- A full run that completes, and tells of no file that breaks the rules, is matched by one that
only fills the template. -/
theorem run_fills (new : s.pipeline.machine = {}) {v w : Value}
    (full : Mode.ofValue v = .ok .full) (filling : Mode.ofValue w = .ok .templateOnly)
    {o : ProcessingOutcome} (completed : (Showing.ofRun (s.inMode v).run).ok = true)
    (came : (Showing.ofRun (s.inMode v).run).outcome = some o)
    (clear : ∀ schema files, found s = .ok schema → listed s = .ok files →
      ∀ path ∈ files, ∀ f, Breaks s schema path f → f ∉ o.errors) :
    (Showing.ofRun (s.inMode w).run).ok = true ∧
      (Showing.ofRun (s.inMode w).run).output = (Showing.ofRun (s.inMode v).run).output ∧
      (Showing.ofRun (s.inMode w).run).outcome = some o := by
  rcases Config.validate_modes s.pipeline.config with ⟨e, fails⟩ | ⟨c, holds⟩
  · obtain ⟨_, failed⟩ := fails v _ full
    rw [run_refused new failed] at completed
    cases completed
  · have its := came
    rw [run_inMode new (holds v _ full), (Showing.ofStory_left _ _).1] at its
    rw [run_inMode new (holds v _ full)] at completed came ⊢
    rw [run_inMode new (holds w _ filling)]
    obtain ⟨schema, files, g, known, looked, read⟩ := recount_outcome (s := s.begun c .full) rfl its
    have same : digested schema (.str Mode.templateOnly.name) files
        (knowing schema (s.begun c .full)) = (.ok o, g) := by
      refine digested_unruled full_same read fun path inside f broken => ?_
      rw [found_begun (holds v _ full)] at known
      rw [listed_begun (holds v _ full)] at looked
      exact clear schema files known looked path inside f broken
    have ends := survey_templateOnly known looked read same
    rw [recount_eq] at completed came ⊢
    rw [recount_eq]
    generalize survey (c.inMode (.str Mode.full.name)) _ = l at ends completed came ⊢
    generalize survey (c.inMode (.str Mode.templateOnly.name)) _ = l' at ends ⊢
    cases ends with
    | stopped shows => cases completed
    | @done p _ _ surveyed =>
      obtain ⟨_, _, o', g, _, _, _, data, rfl, rfl, rfl⟩ := surveyed
      have ends := deliver_templateOnly c p.1 o' g s
      rw [← data] at ends
      dsimp only at completed came ⊢
      generalize deliver (c.inMode (.str Mode.full.name)) p.1 p.2 _ = l at ends completed came ⊢
      generalize deliver (c.inMode (.str Mode.templateOnly.name)) p.1 p.2 _ = l' at ends ⊢
      cases ends with
      | stopped shows => cases completed
      | done shows => exact ⟨rfl, rfl, shows.outcome.trans came⟩

/-- One pipeline in three modes, with gauges that always read the same. A run that only checks
either stops before the checked data where a full run does, of the same failure, or both get
there with the same outcome; then it completes, unless memory cannot be told in megabytes, or the
schema declares a template that has no text, which a run that renders nothing has no use for. And
if a full run completes and tells of no file that breaks the rules, so does a run that only fills
the template, with the same text and the same outcome. -/
theorem run_modes {memory : Outcome Value} {time : Value} (new : s.pipeline.machine = {})
    (steady : s.gauges.Steady memory time) {v w u : Value} (full : Mode.ofValue v = .ok .full)
    (checking : Mode.ofValue w = .ok .validationOnly)
    (filling : Mode.ofValue u = .ok .templateOnly) :
    ((Showing.ofRun (s.inMode w).run = Showing.ofRun (s.inMode v).run ∧
        (Showing.ofRun (s.inMode v).run).ok = false ∧
        .dataValidated ∉ (Showing.ofRun (s.inMode v).run).history) ∨
      (.dataValidated ∈ (Showing.ofRun (s.inMode v).run).history ∧
        .dataValidated ∈ (Showing.ofRun (s.inMode w).run).history ∧
        (∃ o, (Showing.ofRun (s.inMode v).run).outcome = some o ∧
          (Showing.ofRun (s.inMode w).run).outcome = some o) ∧
        ((Showing.ofRun (s.inMode w).run).ok = true ∨
          (∃ e, memory.bind RunState.megabytes = .error e) ∨
          ∃ schema m, found s = .ok schema ∧ schema.templatePath = .error m))) ∧
    ∀ o, (Showing.ofRun (s.inMode v).run).ok = true →
      (Showing.ofRun (s.inMode v).run).outcome = some o →
      (∀ schema files, found s = .ok schema → listed s = .ok files →
        ∀ path ∈ files, ∀ f, Breaks s schema path f → f ∉ o.errors) →
      (Showing.ofRun (s.inMode u).run).ok = true ∧
        (Showing.ofRun (s.inMode u).run).output = (Showing.ofRun (s.inMode v).run).output ∧
        (Showing.ofRun (s.inMode u).run).outcome = some o :=
  ⟨run_checks new steady full checking,
    fun _ completed came clear => run_fills new full filling completed came clear⟩

/-- Two texts that are their own files, and a schema by which each needs a title. -/
def ruled (template : Value) : Session where
  pipeline :=
    { config := { schemaPath := .str "s.json" }
      profile := .fields {}
      schema := some ⟨.map [(.str "required", .list [.str "title"]), (.str "x-template", template)],
        none⟩
      ownSchema := none
      bound := {}
      replacement :=
        { list := some fun _ _ => .pure ["a.md", "b.md"]
          read := some fun _ path => .ok path
          extract := some fun text _ => .ok ⟨[(.str "title", .str text)], text, "yaml"⟩ }
      renderer := {} }
  tree := ⟨[], []⟩
  gauges := .still

theorem run_modes_ruled :
    (ruled .null).pipeline.machine = {} ∧
    (ruled .null).gauges.Steady (.ok (.int 52428800)) (.int 0) ∧
    (.dataValidated ∈ (Showing.ofRun ((ruled .null).inMode (.str "validation-only")).run).history ∧
      (Showing.ofRun ((ruled .null).inMode (.str "validation-only")).run).ok = true) ∧
    (Showing.ofRun ((ruled .null).inMode (.str "template-only")).run).ok = true ∧
      (Showing.ofRun ((ruled .null).inMode (.str "template-only")).run).output =
        (Showing.ofRun ((ruled .null).inMode (.str "full")).run).output := by
  have ends := run_modes (s := ruled .null) rfl Gauges.steady_still (Mode.ofValue_name .full)
    (Mode.ofValue_name .validationOnly) (Mode.ofValue_name .templateOnly)
  have completed : (Showing.ofRun ((ruled .null).inMode (.str "full")).run).ok = true := by
    decide +kernel
  have quiet : (Showing.ofRun ((ruled .null).inMode (.str "full")).run).outcome.map
      (·.errors.length) = some 0 := by decide +kernel
  obtain ⟨o, came, none'⟩ := Option.map_eq_some_iff.mp quiet
  obtain ⟨filled, same, _⟩ := ends.2 o completed came fun _ _ _ _ _ _ f _ told => by
    rw [List.length_eq_zero_iff.mp none'] at told
    cases told
  refine ⟨rfl, Gauges.steady_still, ?_, filled, same⟩
  rcases ends.1 with ⟨_, failed, _⟩ |
    ⟨_, checked, _, done | ⟨e, untold⟩ | ⟨schema, m, known, untold⟩⟩
  · exact nomatch completed.symm.trans failed
  · exact ⟨checked, done⟩
  · have told :
        ((Except.ok (.int 52428800) : Outcome Value).bind RunState.megabytes).isOk = true := by
      decide +kernel
    rw [untold] at told
    cases told
  · obtain rfl := Except.ok.inj known
    have told : (Schema.templatePath ⟨.map [(.str "required", .list [.str "title"]),
        (.str "x-template", .null)], none⟩).toOption.isSome = true := by decide +kernel
    rw [untold] at told
    cases told

/-- A run that only checks fails over a template that it has no use for. -/
theorem run_checks_untold : ¬∀ (s : Session) (memory : Outcome Value) (time w : Value),
    s.pipeline.machine = {} → s.gauges.Steady memory time →
    Mode.ofValue w = .ok .validationOnly →
    .dataValidated ∈ (Showing.ofRun (s.inMode w).run).history →
    (Showing.ofRun (s.inMode w).run).ok = true := by
  intro claimed
  have checked : .dataValidated ∈
    (Showing.ofRun ((ruled (.int (10 ^ 4300))).inMode (.str "validation-only")).run).history := by
    decide +kernel
  have failed :
      (Showing.ofRun ((ruled (.int (10 ^ 4300))).inMode (.str "validation-only")).run).ok =
        false := by
    decide +kernel
  have completed := claimed _ _ _ _ rfl Gauges.steady_still
    (Mode.ofValue_name .validationOnly) checked
  exact nomatch completed.symm.trans failed

end Session
end Quire
