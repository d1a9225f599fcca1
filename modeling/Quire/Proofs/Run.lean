import Quire.Proofs.Pursuit

/-! A whole run, whatever its sources, its renderer and its gauges do: it ends in the
completed state, or it fails, and then the report, the state and the history say so
alike. -/

namespace Quire

namespace Pipeline

open Work

theorem spares_execute (m : Monitor) (strategy : Strategy) (work : String → Attempt Document)
    (files : List String) : Spares (execute m strategy work files) := by
  unfold execute
  split
  · exact spares_pure _
  · split
    · exact spares_get.bind fun _ => spares_traced _
    · exact spares_traced _

theorem spares_processDocuments (files : List String) (rules : Option RuleSet)
    (bounds : Option Bounds) (options : Option ProcessingConfig) :
    Spares (processDocuments files rules bounds options) := by
  refine spares_get.bind fun s => ?_
  dsimp only
  split
  · refine (spares_ofOutcome _).bind fun bounds => (spares_gauged _).bind fun monitor =>
      (spares_tryOut _ _).bind fun strategy => (spares_say _ _ _).bind fun _ =>
      (spares_ofOutcome _).bind fun flatten => spares_get.bind fun s =>
      (spares_execute _ _ _ _).bind fun done => (spares_tryOut _ _).bind fun made =>
      (spares_tryOut _ _).bind fun _ => spares_pure _
  · exact spares_ofOutcome _

theorem spares_checkConfig : Spares checkConfig := by
  refine spares_get.bind fun s => ?_
  refine Spares.bind (spares_onPipeline fun _ => rfl) fun _ => ?_
  refine (spares_ofOutcome _).bind fun _ => ?_
  exact spares_onPipeline fun _ => rfl

theorem spares_loadSchema : Spares loadSchema := by
  refine spares_get.bind fun s => ?_
  split
  · exact spares_pure _
  · refine (spares_tryOut _ _).bind fun _ => ?_
    refine Spares.bind (spares_onPipeline fun _ => rfl) fun _ => ?_
    exact spares_pure _

theorem spares_listFiles : Spares listFiles := by
  refine spares_get.bind fun _ => ?_
  refine (spares_ofOutcome _).bind fun _ => ?_
  refine (spares_tryOut _ _).bind fun _ => ?_
  exact (spares_say _ _ _).bind fun _ => spares_pure _

theorem spares_renderWith (template : Option Template) (data format : Value) :
    Spares (renderWith template data format) := by
  unfold renderWith
  split
  · exact spares_get.bind fun _ => spares_ofOutcome _
  · exact spares_ofOutcome _

theorem spares_writeOutput (text path : String) : Spares (writeOutput text path) := by
  intro s
  unfold writeOutput
  rw [run_get]
  rcases s.pipeline.renderer.write s.tree text path with ⟨tree, e | written⟩ <;> rfl

theorem pursues_begin : Pursues (begin none none) Machine.Underway := by
  refine pursues_resetMachine.bind fun _ => ?_
  refine spares_get.pursues.bind fun s => ?_
  exact pursues_transition (.begin (.config s.pipeline.config)) nofun nofun

theorem pursues_enter : Pursues enter Machine.Underway := by
  refine spares_get.pursues.bind fun s => ?_
  split
  · exact pursues_begin.quietly
  · exact (spares_pure ()).pursues

theorem pursues_produce (output : OutputConfig) (path : Option String) (data : Value) :
    Pursues (produce output path data) Machine.Underway := by
  unfold produce
  refine Pursues.bind ?_ fun template => ?_
  · cases path with
    | none => exact (spares_pure none).pursues
    | some path =>
      refine Spares.pursues ?_
      refine Spares.bind ?_ fun t => spares_pure _
      exact spares_get.bind fun _ => spares_tryOut _ _
  · refine (pursues_send (.templateLoadComplete _) nofun nofun).bind fun _ => ?_
    refine (pursues_send .generateOutput nofun nofun).bind fun _ => ?_
    refine (spares_renderWith template data output.format).pursues.bind fun text => ?_
    have closes := pursues_send (.outputGenerationComplete (.value (.str text))) nofun nofun
    dsimp only
    split
    · exact (spares_writeOutput _ _).pursues.bind fun _ => closes
    · exact closes

theorem pursues_gather (schema : Schema) (mode : Value) :
    Pursues (gather schema mode) Machine.Underway := by
  unfold gather
  refine spares_listFiles.pursues.bind fun files => ?_
  refine (pursues_send (.parseFrontmatter _) nofun nofun).bind fun _ => ?_
  refine (spares_ofOutcome _).pursues.bind fun rules => ?_
  refine (spares_processDocuments _ _ _ _).pursues.bind fun outcome => ?_
  refine Pursues.bind (Spares.pursues (spares_modify fun _ => rfl)) fun _ => ?_
  refine (pursues_send (.frontmatterParseComplete _) nofun nofun).bind fun _ => ?_
  refine (pursues_transition .validateData nofun nofun).bind fun state => ?_
  dsimp only
  split
  · refine (pursues_send (.validationComplete _) nofun nofun).bind fun _ => ?_
    exact (spares_pure _).pursues
  · exact (spares_pure _).pursues

/-- The phases of a run take it to its end, or fail while it is under way. -/
theorem pursues_phases : Pursues phases Machine.Done := by
  unfold phases
  refine spares_checkConfig.pursues.bind fun _ => ?_
  refine pursues_enter.bind fun _ => ?_
  refine spares_get.pursues.bind fun s => ?_
  refine (pursues_send (.loadSchema _) nofun nofun).bind fun _ => ?_
  refine spares_loadSchema.pursues.bind fun schema => ?_
  refine (pursues_send (.schemaLoadComplete _) nofun nofun).bind fun _ => ?_
  refine (pursues_gather schema _).bind fun data => ?_
  refine (spares_ofOutcome _).pursues.bind fun output => ?_
  refine (spares_ofOutcome _).pursues.bind fun path => ?_
  refine (pursues_transition (.loadTemplate _) nofun nofun).bind fun state => ?_
  dsimp only
  split
  · exact (pursues_produce _ _ _).bind fun _ => pursues_complete
  · exact pursues_complete

/-- What a machine is told of a fault. -/
def errorOf (m : Machine) (fault : Fault) : RunError :=
  ⟨.str m.state.name, .str fault.message, some (.fault fault)⟩

/-- A run under way can always be taken to the failed state. -/
theorem conclude_run (e : Failure) {s : Session} (underway : s.pipeline.machine.Underway) :
    ((conclude e).run s).1 = .ok () ∧ ((conclude e).run s).2.pipeline.machine =
      s.pipeline.machine.push (.fail (errorOf s.pipeline.machine (e.toFault none)))
        (.failed (errorOf s.pipeline.machine (e.toFault none)) s.pipeline.machine.state) := by
  have proceeds : s.pipeline.machine.canProceed = true := by
    simp [Machine.canProceed, underway.going]
  obtain ⟨after, once⟩ := Machine.transition_ok (g := s.gauges)
    (.fail (errorOf s.pipeline.machine (e.toFault none)) underway.going)
  unfold conclude
  rw [run_get, run_note, if_pos proceeds]
  exact run_send (s := noted .pipeline (failureNotes s.pipeline.machine.state.name e) s) once

end Pipeline

namespace Session

open Pipeline

theorem ready_underway {s : Session} (reached : s.pipeline.machine.Reached) :
    s.ready.pipeline.machine.Underway := by
  unfold ready
  cases fresh : isFresh s.pipeline.machine.state with
  | false => exact .reset s.pipeline.machine
  | true =>
    refine ⟨reached, ?_⟩
    unfold isFresh at fresh
    change s.pipeline.machine.state.isTerminal = false
    split at fresh
    · rename_i idle
      rw [idle]
      rfl
    · rename_i begun
      rw [begun]
      rfl
    · cases fresh

/-- A pipeline that was entered by hand with settings for no mode, and whose folder is
gone. -/
def astray : Session where
  pipeline :=
    { config := { schemaPath := .str "schema.json" }
      profile := .fields {}
      schema := some ⟨.map [], none⟩
      ownSchema := none
      bound := {}
      replacement :=
        { list := some fun _ _ => .fail (.mishap ⟨.other "FolderGone", "docs"⟩) }
      renderer := {}
      machine := (Machine.transition {}
        (.begin (.value (.map [(.str "mode", .str "odd")]))) .still).2.1 }
  tree := ⟨[], []⟩
  gauges := .still

end Session
end Quire
