import Quire.Proofs.Files.Written
import Quire.Proofs.Outline

/-! What a run does to the files around it. It writes one file at most, the one that its
settings have a place for, and that only once the text is rendered. -/

namespace Quire

theorem Mode.generatingOutput_mem {mode : Mode} (renders : mode ≠ .validationOnly) :
    .generatingOutput ∈ mode.upTo .generatingOutput ∧
      .generatingOutput ∈ mode.upTo .outputGenerated ∧ .generatingOutput ∈ mode.states := by
  cases mode with
  | validationOnly => exact absurd rfl renders
  | full => decide
  | templateOnly => decide

namespace Pipeline

/-- How a stretch of a run leaves the files: as they were, or with a text put to its place. -/
inductive Leaves (mode : Mode) (s : Session) (rendered : OutputConfig → String → Prop) :
    Except Stop (String × Session) → Prop
  | untouched {l : Except Stop (String × Session)} (tree : (remains l).tree = s.tree)
      (outputPath : (remains l).outputPath = s.outputPath) : Leaves mode s rendered l
  | refused {output : OutputConfig} {text : String} (put : rendered output text) {tree : FileTree}
      {e : Failure} (wrote : s.pipeline.renderer.write s.tree text output.path.plain =
        (tree, .error e)) {l : Except Stop (String × Session)} (left : (remains l).tree = tree)
      (outputPath : (remains l).outputPath = s.outputPath)
      (passed : .generatingOutput ∈ (Showing.ofStory mode l).history)
      (failed : (Showing.ofStory mode l).ok = false) : Leaves mode s rendered l
  | wrote {output : OutputConfig} {text : String} (put : rendered output text) {tree : FileTree}
      {place : String} (wrote : s.pipeline.renderer.write s.tree text output.path.plain =
        (tree, .ok place)) {l : Except Stop (String × Session)} (left : (remains l).tree = tree)
      (outputPath : (remains l).outputPath = some place)
      (passed : .generatingOutput ∈ (Showing.ofStory mode l).history)
      (told : (Showing.ofStory mode l).ok = true → (Showing.ofStory mode l).output = some text) :
      Leaves mode s rendered l

theorem Leaves.of_eq {mode : Mode} {s u : Session}
    {rendered rendered' : OutputConfig → String → Prop} {l : Except Stop (String × Session)} (left : Leaves mode u rendered l) (tree : u.tree = s.tree)
    (outputPath : u.outputPath = s.outputPath)
    (renderer : u.pipeline.renderer = s.pipeline.renderer)
    (imp : ∀ output text, rendered output text → rendered' output text) :
    Leaves mode s rendered' l := by
  cases left with
  | untouched same same' => exact .untouched (same.trans tree) (same'.trans outputPath)
  | refused put wrote left same passed failed =>
    rw [tree, renderer] at wrote
    exact .refused (imp _ _ put) wrote left (same.trans outputPath) passed failed
  | wrote put wrote left here passed told =>
    rw [tree, renderer] at wrote
    exact .wrote (imp _ _ put) wrote left here passed told

/-- The files are as they were, or as writing a rendered text has left them. -/
theorem Leaves.tree {mode : Mode} {s : Session} {rendered : OutputConfig → String → Prop}
    {l : Except Stop (String × Session)} (left : Leaves mode s rendered l) :
    (remains l).tree = s.tree ∨ ∃ output text, rendered output text ∧
      (remains l).tree = (s.pipeline.renderer.write s.tree text output.path.plain).1 := by
  cases left with
  | untouched same _ => exact .inl same
  | refused put wrote same _ _ _ =>
    exact .inr ⟨_, _, put, same.trans (congrArg Prod.fst wrote).symm⟩
  | wrote put wrote same _ _ _ =>
    exact .inr ⟨_, _, put, same.trans (congrArg Prod.fst wrote).symm⟩

theorem remains_survey (config : Config) (s : Session) :
    (remains (survey config s)).tree = s.tree ∧
    (remains (survey config s)).outputPath = s.outputPath ∧
    (remains (survey config s)).pipeline.renderer = s.pipeline.renderer := by
  rw [survey_eq]
  split
  · exact ⟨rfl, rfl, rfl⟩
  · split
    · exact ⟨rfl, rfl, rfl⟩
    · split <;> exact ⟨rfl, rfl, rfl⟩

/-- A text that was rendered from surveyed data, to be put to a place. -/
def Rendered (config : Config) (schema : Schema) (data : Entries) (u : Session)
    (output : OutputConfig) (text : String) : Prop :=
  ∃ path, places config schema = .ok (output, path) ∧ Put config output path (.map data) u text

theorem rounded_history {mode : Mode} (renders : mode ≠ .validationOnly) (u : Session)
    (text : String) : .generatingOutput ∈ (Showing.ofStory mode (rounded u text)).history ∧
      ((Showing.ofStory mode (rounded u text)).ok = true →
        (Showing.ofStory mode (rounded u text)).output = some text) := by
  obtain ⟨_, before, whole⟩ := Mode.generatingOutput_mem renders
  unfold rounded
  dsimp only
  split
  · exact ⟨List.mem_append_left _ before, nofun⟩
  · exact ⟨whole, fun _ => rfl⟩

theorem deliver_leaves (config : Config) (schema : Schema) (data : Entries) (u : Session) :
    Leaves config.chosenMode u.bare (Rendered config schema data u.bare)
      (deliver config schema data u.bare) := by
  rw [deliver_eq]
  cases known : places config schema with
  | error m => exact .untouched rfl rfl
  | ok r =>
    obtain ⟨output, path⟩ := r
    have made := texted_cases u.bare config output path (.map data)
    dsimp only
    generalize texted u.bare config output path (.map data) = r at made ⊢
    cases made with
    | stopped late e => exact .untouched rfl rfl
    | kept text =>
      change Leaves _ _ _ (rounded u.bare text)
      refine .untouched ?_ ?_ <;> rw [remains_rounded]
    | refused put wrote =>
      obtain ⟨here, _⟩ := Mode.generatingOutput_mem put.renders
      exact .refused ⟨path, known, put⟩ wrote rfl rfl (List.mem_append_left _ here) rfl
    | @wrote text put tree place wrote =>
      have left := remains_rounded { u.bare with tree, outputPath := some place } text
      obtain ⟨passed, told⟩ := rounded_history put.renders
        { u.bare with tree, outputPath := some place } text
      exact .wrote ⟨path, known, put⟩ wrote (congrArg Session.tree left)
        (congrArg Session.outputPath left) passed told

end Pipeline

namespace Session

open Pipeline

/-- A run of the session comes to render a text that there is a place for: its mode is none that
renders nothing, and all that comes before has gone well. -/
def Renders (s : Session) (output : OutputConfig) (text : String) : Prop :=
  ∃ config schema data u, s.pipeline.config.validate = (config, .ok ()) ∧
    survey config (settled config s.ready.bare) = .ok ((schema, data), u) ∧
    Rendered config schema data u output text

theorem story_leaves (s : Session) :
    Leaves s.pipeline.config.validate.1.chosenMode s.ready s.Renders s.story := by
  unfold story
  rw [tale_eq, show s.ready.pipeline.config = s.pipeline.config from rfl]
  rcases valid : s.pipeline.config.validate with ⟨config, e | ⟨⟩⟩
  · exact .untouched rfl rfl
  · dsimp only
    rw [recount_eq]
    obtain ⟨tree, outputPath, renderer⟩ := remains_survey config (settled config s.ready.bare)
    cases came : survey config (settled config s.ready.bare) with
    | error stop =>
      rw [came] at tree outputPath
      exact .untouched tree outputPath
    | ok r =>
      obtain ⟨⟨schema, data⟩, u⟩ := r
      rw [came] at tree outputPath renderer
      have left := deliver_leaves config schema data u
      obtain ⟨_, o, g, _, rfl⟩ := survey_eq_ok _ came
      refine left.of_eq tree outputPath renderer fun output text rendered => ?_
      exact ⟨config, schema, data, _, valid, came, rendered⟩

end Session

namespace Template

variable {t tree : FileTree} {n : FileName} {text : String}

theorem writeOutput_writes {place : String} (grounded : t.Grounded)
    (wrote : writeOutput t n text = (tree, .ok place)) :
    FileTree.Writes t n text (tree, .ok ()) ∧ place = n.text := by
  have effect := FileTree.writes_writeText grounded n text
  unfold writeOutput at wrote
  split at wrote
  · next done =>
    cases wrote
    rw [done] at effect
    exact ⟨effect, rfl⟩
  · cases wrote

theorem writeOutput_fails {e : Failure} (grounded : t.Grounded)
    (wrote : writeOutput t n text = (tree, .error e)) :
    ∃ m, FileTree.Writes t n text (tree, .error m) := by
  have effect := FileTree.writes_writeText grounded n text
  unfold writeOutput at wrote
  split at wrote
  · cases wrote
  · next m failed =>
    cases wrote
    rw [failed] at effect
    exact ⟨m, effect⟩

end Template

namespace Session

open Pipeline

/-- Files are written as they are by default. -/
def WritesFiles (s : Session) : Prop :=
  ∀ t text path, s.pipeline.renderer.write t text path =
    Template.writeOutput t (FileName.ofString path) text

theorem WritesFiles.of_default {s : Session} (default : s.pipeline.renderer = {}) :
    s.WritesFiles := by
  intro t text path
  rw [default]

/-- A run changes no file but the one that its settings have a place for, and that one only if its
mode is one that renders, and all has gone well up to the text. If the text has bytes and the run
has no file to show for it, no file is changed at all; and if it is good and has a file to show,
the file holds the bytes of its output. -/
theorem run_writes {s : Session} (reached : s.pipeline.machine.Reached) (own : s.Own)
    (writes : s.WritesFiles) (grounded : s.tree.Grounded) :
    (∀ place, s.run.2.tree.bytesAt place ≠ s.tree.bytesAt place → ∃ output text,
      s.Renders output text ∧
      s.run.2.tree.locate (FileName.ofString output.path.plain) = .ok place ∧
      .generatingOutput ∈ s.run.2.pipeline.machine.history.map RunState.kind) ∧
    ((∀ output text, s.Renders output text → (Text.utf8Bytes text).isOk = true) →
      s.run.1.outputPath = none → ∀ place, s.run.2.tree.bytesAt place = s.tree.bytesAt place) ∧
    ∀ p, s.run.1.ok = true → s.run.1.outputPath = some p → ∃ output text bytes,
      s.Renders output text ∧ p = (FileName.ofString output.path.plain).text ∧
      s.run.1.output = some text ∧ Text.utf8Bytes text = .ok bytes ∧
      s.run.2.tree.read (FileName.ofString output.path.plain) = .ok bytes := by
  obtain ⟨shown, bare⟩ := run_showing reached own
  have left := story_leaves s
  have tree : s.run.2.bare.tree = (remains s.story).tree := congrArg Session.tree bare
  change s.run.2.tree = _ at tree
  have outputPath : s.run.1.outputPath = (remains s.story).outputPath :=
    (congrArg Showing.outputPath shown).trans (Showing.ofStory_left _ _).2
  have history := congrArg Showing.history shown
  have ok := congrArg Showing.ok shown
  have output := congrArg Showing.output shown
  change s.run.2.pipeline.machine.history.map RunState.kind = _ at history
  change s.run.1.ok = _ at ok
  change s.run.1.output = _ at output
  rw [tree, outputPath, history, ok, output]
  cases left with
  | untouched same none' =>
    rw [same]
    refine ⟨fun place changed => absurd rfl changed, fun _ _ _ => rfl, fun p _ some' => ?_⟩
    exact nomatch none'.symm.trans some'
  | @refused output text put tree e wrote _ left _ passed failed =>
    obtain ⟨m, effect⟩ := Template.writeOutput_fails grounded ((writes _ _ _).symm.trans wrote)
    rw [left, failed]
    exact ⟨fun place changed => ⟨output, text, put, effect.leads changed, passed⟩,
      fun encodable _ => effect.unharmed (encodable output text put), nofun⟩
  | @wrote output text put tree place wrote _ left path passed told =>
    obtain ⟨effect, rfl⟩ := Template.writeOutput_writes grounded ((writes _ _ _).symm.trans wrote)
    rw [left, path]
    refine ⟨fun place changed => ⟨output, text, put, effect.leads changed, passed⟩, nofun,
      fun p good same => ?_⟩
    obtain ⟨bytes, encoded, read⟩ := effect.read
    exact ⟨output, text, bytes, put, (Option.some.inj same).symm, told good, encoded, read⟩

/-- No files to read, an old report in a folder, and a place for a new one where there is no folder
yet. -/
def shelf : Session where
  pipeline :=
    { config :=
        { schemaPath := .str "s.json", output := .fields { path := .str "out/../new/r.json" } }
      profile := .fields {}
      schema := some ⟨.map [], none⟩
      ownSchema := none
      bound := {}
      replacement := {}
      renderer := {} }
  tree := ⟨["home"], [(["home"], .folder), (["home", "out"], .folder),
    (["home", "out", "r.json"], .file [123, 125])]⟩
  gauges := .still

theorem run_writes_shelf :
    shelf.pipeline.machine.Reached ∧ shelf.Own ∧ shelf.WritesFiles ∧ shelf.tree.Grounded ∧
    (∃ output text, shelf.Renders output text ∧
      shelf.run.2.tree.locate (FileName.ofString output.path.plain) =
        .ok ["home", "new", "r.json"]) ∧
    ∃ output text bytes, shelf.Renders output text ∧
      (FileName.ofString output.path.plain).text = "out/../new/r.json" ∧
      shelf.run.1.output = some text ∧ Text.utf8Bytes text = .ok bytes ∧
      shelf.run.2.tree.read (FileName.ofString output.path.plain) = .ok bytes := by
  have reached : shelf.pipeline.machine.Reached := .new
  have own : shelf.Own := fun c begun => by cases begun
  have writes : shelf.WritesFiles := .of_default rfl
  have grounded : shelf.tree.Grounded := by decide +kernel
  obtain ⟨beside, _, holds⟩ := run_writes reached own writes grounded
  have changed : shelf.run.2.tree.bytesAt ["home", "new", "r.json"] ≠
      shelf.tree.bytesAt ["home", "new", "r.json"] := by decide +kernel
  have good : shelf.run.1.ok = true := by decide +kernel
  have place : shelf.run.1.outputPath = some "out/../new/r.json" := by decide +kernel
  obtain ⟨output, text, renders, leads, _⟩ := beside _ changed
  obtain ⟨output', text', bytes, renders', same, rest⟩ := holds _ good place
  exact ⟨reached, own, writes, grounded, ⟨output, text, renders, leads⟩,
    output', text', bytes, renders', same.symm, rest⟩

end Session
end Quire
