import Quire.Proofs.Config.Settled
import Quire.Proofs.Output
import Quire.Proofs.Paired

/-! A second run of one pipeline. The first leaves more behind than its report: a schema
that stays loaded, settings put in order, gauges that were read, and a file with folders around
it. None of that shows in the second, as long as the file is none that a run reads. -/

namespace Quire
namespace Pipeline

open Execution

variable {memory : Outcome Value} {time : Value} {s t : Session} {config : Config}

/-- A session that came of another: a schema may have been loaded, the gauges have been read. -/
structure Follows (memory : Outcome Value) (time : Value) (s t : Session) : Prop where
  pipeline : t.pipeline = { s.pipeline with schema := t.pipeline.schema }
  found : found t = found s
  finishing : t.finishing = s.finishing
  steady : t.gauges.Steady memory time

/-- In a tree a run finds what it reads as it was around the session, and its text can be put in
its place there no better and no worse. -/
structure Serves (config : Config) (s : Session) (tree : FileTree) : Prop where
  listed : listed { s with tree } = listed s
  reads : ∀ files, Pipeline.listed s = .ok files → ∀ path ∈ files, ∀ name,
    Document.checkPath none (.str path) = .ok name →
    s.pipeline.sources.read tree name = s.pipeline.sources.read s.tree name
  renders : ∀ schema data u output path, survey config s = .ok ((schema, data), u) →
    places config schema = .ok (output, path) →
    RendersAlike config output path (.map data) u { u with tree }

theorem Follows.knowing (follows : Follows memory time s t) (schema : Schema) :
    (knowing schema t).pipeline = (knowing schema s).pipeline :=
  congrArg (fun p : Pipeline => { p with schema := some schema }) follows.pipeline

theorem Follows.sources (follows : Follows memory time s t) :
    t.pipeline.sources = s.pipeline.sources :=
  (congrArg Pipeline.sources follows.pipeline).trans rfl

theorem Follows.renderer (follows : Follows memory time s t) :
    t.pipeline.renderer = s.pipeline.renderer :=
  (congrArg Pipeline.renderer follows.pipeline).trans rfl

theorem Follows.listed (follows : Follows memory time s t) :
    listed t = listed { s with tree := t.tree } := by
  unfold Pipeline.listed
  rw [follows.sources, follows.pipeline]

/-- Files that read the same come to the same. -/
theorem workOf_reads (sources : t.pipeline.sources = s.pipeline.sources) {path : String}
    (reads : ∀ name, Document.checkPath none (.str path) = .ok name →
      s.pipeline.sources.read t.tree name = s.pipeline.sources.read s.tree name)
    (rules : Option RuleSet) (flatten : List String) :
    (workOf t rules flatten path).result = (workOf s rules flatten path).result := by
  unfold workOf
  rw [Intake.process_result, Intake.process_result]
  simp only [intake, sources]
  cases known : Document.checkPath none (.str path) with
  | error e => rfl
  | ok name =>
    rw [Outcome.ok_bind, Outcome.ok_bind, reads name known]

theorem digested_follows (steady : s.gauges.Steady memory time) (follows : Follows memory time s t)
    (serves : Serves config s t.tree) (schema : Schema) (mode : Value) {files : List String}
    (looked : listed s = .ok files) :
    (digested schema mode files (knowing schema t)).1 =
      (digested schema mode files (knowing schema s)).1 ∧
    (digested schema mode files (knowing schema s)).2.Steady memory time ∧
    (digested schema mode files (knowing schema t)).2.Steady memory time := by
  unfold digested
  cases rulesIn schema mode with
  | error e => exact ⟨rfl, steady, follows.steady⟩
  | ok rules =>
    have same := follows.knowing schema
    have akin : Akin (fun g h => g.Steady memory time ∧ h.Steady memory time)
        (knowing schema s) (knowing schema t) :=
      ⟨congrArg Pipeline.schema same, congrArg (·.config.bounds) same,
        congrArg (·.config.processing) same, congrArg Pipeline.profile same, follows.finishing,
        steady, follows.steady⟩
    have agree (schema' : Schema) (flatten : List String) (_ : some schema = some schema')
        (_ : schema'.flattenPaths = .ok flatten) (path : String) (inside : path ∈ files) :
        Agrees (fun _ => False) (workOf (knowing schema s) rules flatten)
          (workOf (knowing schema t) rules flatten) path :=
      .of_result (workOf_reads (s := knowing schema s) (t := knowing schema t) follows.sources
        (serves.reads files looked path inside) rules flatten)
    exact processed_alike (Gauges.paired_steady memory time) akin agree (.inl fun _ => id)

/-- A survey goes as the one before. -/
theorem survey_follows (steady : s.gauges.Steady memory time) (follows : Follows memory time s t)
    (serves : Serves config s t.tree) (shows : s.Shows t) :
    EndsAlike (fun p u v => Surveyed (fun g h => g.Steady memory time ∧ h.Steady memory time)
      config s t p.1 p.2 u v) (survey config s) (survey config t) :=
  survey_alike follows.found (follows.listed.trans serves.listed) shows
    fun schema _ _ looked => digested_follows steady follows serves schema config.mode looked

theorem recount_follows (steady : s.gauges.Steady memory time)
    (follows : Follows memory time s t) (serves : Serves config s t.tree) (shows : s.Shows t) :
    EndsAlike (fun _ => Session.Shows) (recount config s) (recount config t) := by
  have ends := survey_follows steady follows serves shows
  rw [recount_eq, recount_eq]
  cases came : survey config s with
  | error stop =>
    rw [came] at ends
    generalize survey config t = l at ends ⊢
    cases ends with
    | stopped shows => exact .stopped shows
  | ok r =>
    rw [came] at ends
    generalize survey config t = l at ends ⊢
    cases ends with
    | @done p _ _ read =>
      obtain ⟨_, _, o, g, h, _, _, _, rfl, rfl, one, two⟩ := read
      refine deliver_alike (s := surveyed p.1 o g s) (t := surveyed p.1 o h t) rfl .rfl
        (fun output path known => ?_) ⟨rfl, shows.outputPath⟩ ?_
      · exact (serves.renders p.1 p.2 _ output path came known).of_eq follows.renderer rfl
      · exact (congrArg (·.bind RunState.megabytes) (two.memory _)).trans
          (congrArg (·.bind RunState.megabytes) (one.memory _)).symm

/-! ### What a run leaves for the next -/

theorem follows_survey (config : Config) (bare : s.bare = s)
    (steady : s.gauges.Steady memory time) :
    Follows memory time s (remains (survey config s)) := by
  have kept : s.bare.pipeline = s.pipeline := congrArg Session.pipeline bare
  rw [survey_eq]
  cases known : found s with
  | error e => exact ⟨kept, rfl, rfl, steady⟩
  | ok schema =>
    have knows : (knowing schema s).bare.pipeline = { s.pipeline with schema := some schema } :=
      congrArg (fun p : Pipeline => { p with schema := some schema }) kept
    dsimp only
    cases listed s with
    | error e => exact ⟨knows, known.symm, rfl, steady⟩
    | ok files =>
      have steady' := digested_steady (s := knowing schema s) steady schema config.mode files
      dsimp only
      generalize digested schema config.mode files (knowing schema s) = r at steady' ⊢
      obtain ⟨e | o, g⟩ := r <;> exact ⟨knows, known.symm, rfl, steady'⟩

theorem follows_recount (config : Config) (bare : s.bare = s)
    (steady : s.gauges.Steady memory time) :
    Follows memory time s (remains (recount config s)) := by
  have read := follows_survey config bare steady
  rw [recount_eq]
  cases came : survey config s with
  | error stop =>
    rw [came] at read
    exact read
  | ok r =>
    obtain ⟨⟨schema, data⟩, u⟩ := r
    rw [came] at read
    obtain ⟨known, o, g, _, rfl⟩ := survey_eq_ok _ came
    have after := delivered (surveyed schema o g s) config schema data
    change Follows memory time s (remains (deliver config schema data (surveyed schema o g s).bare))
    generalize remains (deliver config schema data _) = left at after ⊢
    refine ⟨?_, ?_, after.finishing, ?_⟩
    · rw [after.pipeline]
      exact read.pipeline
    · rw [known]
      unfold found
      rw [after.pipeline]
      rfl
    · rcases after.gauges with same | later
      · rw [same]
        exact read.steady
      · rw [later]
        exact ⟨read.steady.memory, read.steady.clock⟩

theorem serves_own (config : Config) (s : Session) : Serves config s s.tree where
  listed := rfl
  reads _ _ _ _ _ _ := rfl
  renders schema data u output path came known := by
    have same : u.tree = s.tree := by
      have there := (remains_survey config s).1
      rwa [came] at there
    rw [← same]
    exact ⟨rfl, rfl, fun _ _ => rfl⟩

/-- After a run that started from the checked settings another one goes as it did. -/
theorem recount_again (config : Config) (bare : s.bare = s) (steady : s.gauges.Steady memory time)
    (fresh : s.outcome = none) (fresh' : s.outputPath = none)
    (serves : ∀ schema data u output text, survey config s = .ok ((schema, data), u) →
      Rendered config schema data u output text →
      Serves config s (s.pipeline.renderer.write s.tree text output.path.plain).1) :
    EndsAlike (fun _ => Session.Shows) (recount config s)
      (recount config { remains (recount config s) with outcome := none, outputPath := none }) := by
  have follows := follows_recount config bare steady
  refine recount_follows steady
    ⟨follows.pipeline, follows.found, follows.finishing, follows.steady⟩ ?_
    ⟨fresh.symm, fresh'.symm⟩
  change Serves config s (remains (recount config s)).tree
  obtain ⟨tree, _, _⟩ := remains_survey config s
  rw [recount_eq]
  cases came : survey config s with
  | error stop =>
    rw [came] at tree
    exact tree.symm ▸ serves_own config s
  | ok r =>
    obtain ⟨⟨schema, data⟩, u⟩ := r
    have puts := serves schema data u
    have left := (deliver_leaves config schema data u).tree
    obtain ⟨_, o, g, _, rfl⟩ := survey_eq_ok _ came
    change Serves config s (remains (deliver config schema data (surveyed schema o g s).bare)).tree
    rcases left with same | ⟨output, text, put, wrote⟩
    · rw [same]
      exact serves_own config s
    · rw [wrote]
      exact puts output text came put

end Pipeline

/-- A text that was put to a place is put there again as it was. -/
theorem Template.writeOutput_again {t : FileTree} {n : FileName} (grounded : t.Grounded)
    (settles : t.Settles n.parent) (text : String) :
    writeOutput (writeOutput t n text).1 n text = writeOutput t n text := by
  have again := FileTree.writeText_again grounded settles text
  unfold writeOutput
  rcases wrote : t.writeText n text with ⟨u, m | ⟨⟩⟩ <;>
  · rw [wrote] at again
    simp only [again]

theorem Template.load_congr {t u : FileTree} {n : FileName} (same : u.read n = t.read n) :
    load u n = load t n := by
  unfold load readRaw FileTree.readText
  rw [same]

theorem FileReader.read_congr (r : FileReader) {t u : FileTree} {path : String}
    (same : u.read (FileName.ofString path) = t.read (FileName.ofString path))
    (size : u.size (FileName.ofString path) = t.size (FileName.ofString path)) :
    r.read u path = r.read t path := by
  unfold read checkSize readBytes
  dsimp only
  rw [same, size]

namespace Session

open Pipeline

variable {memory : Outcome Value} {time : Value} {s : Session}

theorem ready_ready (s : Session) : s.ready.ready = s.ready := by
  unfold ready
  dsimp only
  cases early : isFresh s.pipeline.machine.state with
  | false => rfl
  | true => rw [if_pos rfl, if_pos early]

theorem ready_bare (s : Session) :
    s.ready.bare = { s.bare with outcome := none, outputPath := none } := rfl

theorem run_ready (s : Session) : s.ready.run = s.run := by
  unfold run
  rw [ready_ready]

/-- A run leaves a machine from which the next one starts over. -/
theorem run_ends (reached : s.pipeline.machine.Reached) (own : s.Own) :
    s.run.2.ready.pipeline.machine = {} := by
  have shown := run_shown reached own
  have ended : isFresh s.run.2.pipeline.machine.state = false := by
    generalize s.run = r at shown ⊢
    generalize s.story = l at shown
    cases shown with
    | completed _ state _ => exact congrArg isFresh state
    | failed _ state _ _ => exact congrArg isFresh state
  unfold ready
  rw [ended]
  rfl

/-- The files as they are once a text was put to the place of an output. -/
def putText (s : Session) (output : OutputConfig) (text : String) : FileTree :=
  (s.pipeline.renderer.write s.tree text output.path.plain).1

/-- A text at its place is none of what a run reads: with it there the same files are found, and
they and the template read the same. -/
structure Unread (s : Session) (output : OutputConfig) (text : String) : Prop where
  listed : Pipeline.listed { s with tree := s.putText output text } = Pipeline.listed s
  reads : ∀ files, Pipeline.listed s = .ok files → ∀ path ∈ files, ∀ name,
    Document.checkPath none (.str path) = .ok name →
    s.pipeline.sources.read (s.putText output text) name = s.pipeline.sources.read s.tree name
  template : ∀ schema path, found s = .ok schema →
    templatePath output schema = .ok (some path) →
    (s.pipeline.renderer.load (s.putText output text) path).result =
      (s.pipeline.renderer.load s.tree path).result

theorem Unread.serves {c : Config} {schema : Schema} {data : Entries} {u : Session}
    {output : OutputConfig} {text : String} (unread : s.Unread output text)
    (kept : Config.Kept s.pipeline.config c)
    (came : survey c (settled c s.ready.bare) = .ok ((schema, data), u))
    (put : Rendered c schema data u output text)
    (again : (s.pipeline.renderer.write (s.putText output text) text output.path.plain).2 =
      (s.pipeline.renderer.write s.tree text output.path.plain).2) :
    Serves c (settled c s.ready.bare) (s.putText output text) where
  listed := by
    have there := listed_settled (s := { s with tree := s.putText output text }) kept
    exact there.trans (unread.listed.trans (listed_settled kept).symm)
  reads files looked := unread.reads files ((listed_settled kept).symm.trans looked)
  renders schema' data' u' output' path' came' known' := by
    cases came.symm.trans came'
    obtain ⟨path, known, _, ⟨t, loaded, filled⟩, _⟩ := put
    cases known.symm.trans known'
    obtain ⟨here, o, g, _, rfl⟩ := survey_eq_ok _ came
    rw [found_settled kept] at here
    refine ⟨?_, rfl, fun text' put' => ?_⟩
    · cases path' with
      | none => rfl
      | some path =>
        have asked : templatePath output schema = .ok (some path) := by
          obtain ⟨_, _, rest⟩ := bind_eq_ok.mp known
          obtain ⟨_, asked, same⟩ := bind_eq_ok.mp rest
          cases same
          exact asked
        exact congrArg (·.map some) (unread.template schema path here asked)
    · obtain ⟨_, ⟨t', loaded', filled'⟩, _⟩ := put'
      obtain rfl := Except.ok.inj (loaded.symm.trans loaded')
      obtain rfl := Except.ok.inj (filled.symm.trans filled')
      exact again

theorem loads_default (default : s.pipeline.renderer = {}) (t : FileTree) (path : String) :
    s.pipeline.renderer.load t path = Template.load t (FileName.ofString path) := by
  rw [default]

/-- Files and templates that are read as they are by default, and are spared by what is written,
are unread in what was written. -/
theorem Unread.of_spared {output : OutputConfig} {text : String} (writes : s.WritesFiles)
    (grounded : s.tree.Grounded) (plain : s.pipeline.replacement.read = none)
    (loads : ∀ t path, s.pipeline.renderer.load t path = Template.load t (FileName.ofString path))
    (listed : Pipeline.listed { s with tree := s.putText output text } = Pipeline.listed s)
    (reads : ∀ files, Pipeline.listed s = .ok files → ∀ path ∈ files, ∀ name,
      Document.checkPath none (.str path) = .ok name → ∃ place,
        s.tree.locate (FileName.ofString name) = .ok place ∧
        s.tree.Spares (FileName.ofString output.path.plain) place)
    (template : ∀ schema path, found s = .ok schema →
      templatePath output schema = .ok (some path) → ∃ place,
        s.tree.locate (FileName.ofString path) = .ok place ∧
        s.tree.Spares (FileName.ofString output.path.plain) place) :
    s.Unread output text := by
  have put : s.putText output text =
      (s.tree.writeText (FileName.ofString output.path.plain) text).1 := by
    rw [putText, writes]
    unfold Template.writeOutput
    split <;> next wrote => rw [wrote]
  refine ⟨listed, fun files looked path inside name known => ?_, fun schema path known asked => ?_⟩
  · obtain ⟨place, led, spares⟩ := reads files looked path inside name known
    obtain ⟨same, size⟩ := FileTree.read_writeText grounded led spares text
    rw [put]
    simp only [Pipeline.sources, SourceConfig.sources, plain, Option.getD_none]
    exact FileReader.read_congr _ same size
  · obtain ⟨place, led, spares⟩ := template schema path known asked
    obtain ⟨same, _⟩ := FileTree.read_writeText grounded led spares text
    rw [put, loads, loads, Template.load_congr same]

/-- From the checked settings on, what a run leaves leads to the same once more. -/
theorem story_again (steady : s.gauges.Steady memory time) {c : Config}
    (valid : s.pipeline.config.validate = (c, .ok ()))
    (unread : ∀ output text, s.Renders output text → s.Unread output text)
    (again : ∀ output text, s.Renders output text →
      (s.pipeline.renderer.write (s.putText output text) text output.path.plain).2 =
        (s.pipeline.renderer.write s.tree text output.path.plain).2) {left : Session}
    (leaves : left = remains (recount c (settled c s.ready.bare))) :
    left.pipeline.config = c ∧
      EndsAlike (fun _ => Session.Shows) (recount c (settled c s.ready.bare))
        (recount c (settled c { left with outcome := none, outputPath := none })) := by
  have follows := follows_recount c (s := settled c s.ready.bare) rfl steady
  have ends := recount_again c (s := settled c s.ready.bare) rfl steady rfl rfl
    fun schema data u output text came put => by
      have renders : s.Renders output text := ⟨c, schema, data, u, valid, came, put⟩
      exact (unread output text renders).serves (Config.validate_kept valid) came put
        (again output text renders)
  rw [← leaves] at follows ends
  have same : settled c { left with outcome := none, outputPath := none } =
      { left with outcome := none, outputPath := none } := by
    unfold settled
    rw [follows.pipeline]
    rfl
  rw [same]
  exact ⟨congrArg Pipeline.config follows.pipeline, ends⟩

/-- A run of a new pipeline shows the same a second time, if its text is put to its place as it was
before, and is none of what the run reads there. -/
theorem run_repeats (new : s.pipeline.machine = {}) (steady : s.gauges.Steady memory time)
    (unread : ∀ output text, s.Renders output text → s.Unread output text)
    (again : ∀ output text, s.Renders output text →
      (s.pipeline.renderer.write (s.putText output text) text output.path.plain).2 =
        (s.pipeline.renderer.write s.tree text output.path.plain).2) :
    Showing.ofRun s.run.2.run = Showing.ofRun s.run := by
  have own : s.Own := fun c begun => by
    rw [new] at begun
    cases begun
  obtain ⟨first, left⟩ := run_new new
  have second := (run_new (run_ends (new ▸ Machine.Reached.new) own)).1
  rw [run_ready, ready_ready, tale_eq, ready_bare] at second
  have config : s.run.2.bare.pipeline.config =
      (remains (tale .idle s.ready.bare)).pipeline.config :=
    congrArg (fun u : Session => u.pipeline.config) left
  rw [left, show s.run.2.ready.pipeline.config = _ from config] at second
  rw [first, second]
  have told := tale_eq s.ready .idle
  rw [show s.ready.pipeline.config = s.pipeline.config from rfl] at told
  have settled := Config.validate_settled s.pipeline.config
  rcases valid : s.pipeline.config.validate with ⟨c, e | ⟨⟩⟩
  · rw [valid] at told settled
    rw [told]
    simp only [remains, settled]
    rfl
  · rw [valid] at told settled
    dsimp only at told settled
    obtain ⟨kept, ends⟩ := story_again steady valid unread again (congrArg remains told)
    rw [kept, settled]
    dsimp only
    rw [told] at ends ⊢
    exact ends.showing c.chosenMode

/-- Of the settings for the output only the format is put in order before a text is rendered. -/
theorem Renders.given {output : OutputConfig} {text : String} (renders : s.Renders output text) :
    ∃ given name, s.pipeline.config.output = .fields given ∧
      output = { given with format := .str name } := by
  obtain ⟨c, schema, data, u, valid, _, path, known, _⟩ := renders
  obtain ⟨given, name, there, settled⟩ := Config.validate_output valid
  obtain ⟨output', got, rest⟩ := bind_eq_ok.mp known
  obtain ⟨_, _, same⟩ := bind_eq_ok.mp rest
  cases same
  rw [settled] at got
  exact ⟨given, name, there, (Except.ok.inj got).symm⟩

/-- A run of a new pipeline shows the same a second time: whether it is good, its output and where
that is, its outcome, its error and its history. It is as long as the text, and the folders that are
made for it, are none of what the run reads, and those folders can all be made or none is made. -/
theorem run_again (new : s.pipeline.machine = {}) (steady : s.gauges.Steady memory time)
    (writes : s.WritesFiles) (grounded : s.tree.Grounded)
    (unread : ∀ output text, s.Renders output text → s.Unread output text)
    (settles : ∀ output text, s.Renders output text →
      s.tree.Settles (FileName.ofString output.path.plain).parent) :
    Showing.ofRun s.run.2.run = Showing.ofRun s.run := by
  refine run_repeats new steady unread fun output text renders => ?_
  rw [putText, writes, writes, Template.writeOutput_again grounded (settles output text renders)]

/-- One file to read, a folder and a file beside it, and a place for the output. -/
def desk (place : String) : Session where
  pipeline :=
    { config := { schemaPath := .str "s.json", output := .fields { path := .str place } }
      profile := .fields {}
      schema := some ⟨.map [], none⟩
      ownSchema := none
      bound := {}
      replacement :=
        { list := some fun _ _ => .pure ["docs/a.md"]
          extract := some fun text _ => .ok ⟨[(.str "title", .str text)], text, "yaml"⟩ }
      renderer := {} }
  tree := ⟨["home"], [(["home"], .folder), (["home", "docs"], .folder),
    (["home", "docs", "a.md"], .file [65]), (["home", "f"], .file [])]⟩
  gauges := .still

theorem desk_given {place : String} {output : OutputConfig} {text : String}
    (renders : (desk place).Renders output text) :
    output.path = .str place ∧ output.template = .null := by
  obtain ⟨given, name, there, rfl⟩ := renders.given
  obtain rfl := Section.fields.inj there
  exact ⟨rfl, rfl⟩

theorem desk_grounded (place : String) : (desk place).tree.Grounded := by
  change (desk "").tree.Grounded
  decide +kernel

theorem desk_lists (place : String) (t : FileTree) (patterns : Value) :
    (desk place).pipeline.sources.list t patterns = .pure ["docs/a.md"] := rfl

theorem desk_unread {place : String}
    (spares : (desk "").tree.Spares (FileName.ofString place) ["home", "docs", "a.md"])
    {output : OutputConfig} {text : String} (renders : (desk place).Renders output text) :
    (desk place).Unread output text := by
  obtain ⟨path, template⟩ := desk_given renders
  refine .of_spared (.of_default rfl) (desk_grounded place) rfl (loads_default rfl) ?_ ?_ ?_
  · simp only [Pipeline.listed, desk_lists]
  · intro files looked file inside name known
    obtain rfl := Except.ok.inj looked
    obtain rfl := List.mem_singleton.mp inside
    have plain : (Document.checkPath none (.str "docs/a.md")).toOption = some "docs/a.md" := by
      decide +kernel
    rw [known] at plain
    obtain rfl := Option.some.inj plain
    refine ⟨["home", "docs", "a.md"], ?_, by rw [path]; exact spares⟩
    change (desk "").tree.locate _ = _
    decide +kernel
  · intro schema path known asked
    obtain rfl := Except.ok.inj known
    have none' : (Schema.templatePath ⟨.map [], none⟩).toOption = some none := by decide +kernel
    unfold templatePath at asked
    rw [template] at asked
    obtain ⟨_, declared, rest⟩ := bind_eq_ok.mp asked
    rw [declared] at none'
    obtain rfl := Option.some.inj none'
    cases rest

theorem run_again_desk :
    (desk "new/r.json").pipeline.machine = {} ∧
    (desk "new/r.json").tree.Settles (FileName.ofString "new/r.json").parent ∧
    (desk "new/r.json").run.1.outputPath = some "new/r.json" ∧
    Showing.ofRun (desk "new/r.json").run.2.run =
      Showing.ofRun (desk "new/r.json").run := by
  have spares : (desk "").tree.Spares (FileName.ofString "new/r.json")
      ["home", "docs", "a.md"] := by
    unfold FileTree.Spares
    decide +kernel
  have settles : (desk "").tree.Settles (FileName.ofString "new/r.json").parent := by
    refine .inl ?_
    decide +kernel
  refine ⟨rfl, settles, by decide +kernel, ?_⟩
  refine run_again rfl Gauges.steady_still (.of_default rfl) (desk_grounded _)
    (fun _ _ => desk_unread spares) fun output text renders => ?_
  rw [(desk_given renders).1]
  exact settles

/-- Folders that are made only up to a file in their way stay, and the next run finds them. -/
theorem run_again_unsettled : ¬∀ (s : Session) (memory : Outcome Value) (time : Value),
    s.pipeline.machine = {} → s.gauges.Steady memory time → s.WritesFiles → s.tree.Grounded →
    (∀ output text, s.Renders output text → s.Unread output text) →
    Showing.ofRun s.run.2.run = Showing.ofRun s.run := by
  intro claimed
  have spares : (desk "").tree.Spares (FileName.ofString "x/../f/g/r.json")
      ["home", "docs", "a.md"] := by
    unfold FileTree.Spares
    decide +kernel
  have same := claimed (desk "x/../f/g/r.json") _ _ rfl Gauges.steady_still (.of_default rfl)
    (desk_grounded _) fun _ _ => desk_unread spares
  have first : (Showing.ofRun (desk "x/../f/g/r.json").run).error.map (·.message) =
      some "cannot write output x/../f/g/r.json: [Errno 17] File exists: 'x/../f'" := by
    decide +kernel
  have second : (Showing.ofRun (desk "x/../f/g/r.json").run.2.run).error.map (·.message) =
      some "cannot write output x/../f/g/r.json: [Errno 20] Not a directory: 'x/../f/g'" := by
    decide +kernel
  rw [same, first] at second
  exact absurd second (by decide)

end Session
end Quire
