import Quire.Proofs.Tale

/-! A run and its tale side by side. `Tells` relates work at the machine to the stretch
of the tale that it comes to: events move the machine along the course of the mode, and
all other work leaves it where it is. -/

namespace Quire

namespace Mode

/-- The states of a run up to one of them. -/
def upTo (mode : Mode) (k : RunState.Kind) : List RunState.Kind :=
  mode.states.take (mode.states.idxOf k + 1)

theorem upTo_step {mode : Mode} {e : RunEvent.Kind} {k t : RunState.Kind}
    (met : k ∈ mode.states) (h : mode.step? k = some (e, t)) :
    mode.upTo t = mode.upTo k ++ [t] := by
  revert met
  cases mode <;> cases k <;> cases h <;> decide

theorem upTo_idle (mode : Mode) : mode.upTo .idle = [.idle] := by cases mode <;> rfl

theorem upTo_initializing (mode : Mode) : mode.upTo .initializing = [.idle, .initializing] := by
  cases mode <;> rfl

theorem upTo_completed (mode : Mode) : mode.upTo .completed = mode.states := by
  cases mode <;> rfl

/-- The states up to one of them and those of the rest are all there are. -/
theorem upTo_append_rest (mode : Mode) (k : RunState.Kind) :
    mode.upTo k ++ (mode.rest k).map (·.2) = mode.states := by
  unfold upTo rest
  rw [List.map_drop]
  exact List.take_append_drop (mode.states.idxOf k + 1) mode.states

end Mode

theorem Machine.OnCourse.history {mode : Mode} {m : Machine} (h : m.OnCourse mode) :
    m.history.map RunState.kind = mode.upTo m.state.kind :=
  List.append_cancel_right (h.passed.trans (mode.upTo_append_rest m.state.kind).symm)

namespace Work

variable {α β γ δ : Type} {mode : Mode} {P : RunState → Prop}

/-- A session on the course of a mode, and what the tale knows of it. -/
structure Stands (mode : Mode) (s t : Session) : Prop where
  bare : t.bare = s
  runs : t.pipeline.machine.state.RunsIn mode
  passed : t.pipeline.machine.history.map RunState.kind =
    mode.upTo t.pipeline.machine.state.kind

/-- What work has come to, and what the tale says that it has. -/
inductive Told (mode : Mode) (Q : α → β → RunState → Prop) :
    Except Failure α × Session → Except Stop (β × Session) → Prop
  | done {a : α} {b : β} {s t : Session} (stands : Stands mode s t)
      (came : Q a b t.pipeline.machine.state) : Told mode Q (.ok a, t) (.ok (b, s))
  | stopped (stop : Stop) {t : Session} (stands : Stands mode stop.left t)
      (where' : t.pipeline.machine.state.kind = stop.phase) :
      Told mode Q (.error stop.cause, t) (.error stop)

/-- From any state with `P`, the tale says what the work comes to. -/
def Tells (mode : Mode) (P : RunState → Prop) (x : Work α) (l : Leg β)
    (Q : α → β → RunState → Prop) : Prop :=
  ∀ s t, Stands mode s t → P t.pipeline.machine.state → Told mode Q (x.run t) (l s)

theorem Tells.bind {x : Work α} {l : Leg β} {Q : α → β → RunState → Prop} {f : α → Work γ}
    {g : β → Leg δ} {R : γ → δ → RunState → Prop} (hx : Tells mode P x l Q)
    (hf : ∀ a b, Tells mode (Q a b) (f a) (g b) R) : Tells mode P (x >>= f) (l >>= g) R := by
  intro s t stands here
  have told := hx s t stands here
  change Told mode R (ExceptT.bindCont f (x.run t).1 (x.run t).2) ((l s).bind fun b => g b.1 b.2)
  generalize x.run t = r at told ⊢
  generalize l s = r' at told ⊢
  cases told with
  | done stands came => exact hf _ _ _ _ stands came
  | stopped stop stands where' => exact .stopped stop stands where'

/-- Where the tale has nothing to tell of the first step. -/
theorem Tells.after {x : Work α} {l : Leg δ} {Q : α → Unit → RunState → Prop} {f : α → Work γ}
    {R : γ → δ → RunState → Prop} (hx : Tells mode P x (pure ()) Q)
    (hf : ∀ a, Tells mode (Q a ()) (f a) l R) : Tells mode P (x >>= f) l R :=
  hx.bind (g := fun _ => l) fun a _ => hf a

theorem Tells.imp {x : Work α} {l : Leg β} {Q R : α → β → RunState → Prop}
    (h : Tells mode P x l Q) (weaker : ∀ a b r, Q a b r → R a b r) : Tells mode P x l R := by
  intro s t stands here
  have told := h s t stands here
  generalize x.run t = r at told ⊢
  generalize l s = r' at told ⊢
  cases told with
  | done stands came => exact .done stands (weaker _ _ _ came)
  | stopped stop stands where' => exact .stopped stop stands where'

/-- Where the tale has nothing to say, the session stays as it is. -/
theorem tells_pure (a : α) (b : β) : Tells mode P (pure a) (pure b) fun a' b' r =>
    a' = a ∧ b' = b ∧ P r := fun _ _ stands here => .done stands ⟨rfl, rfl, here⟩

/-- What does not concern the machine is told as it is. -/
theorem Plain.tells {x : Work α} (h : Plain x) {k : RunState.Kind}
    (there : ∀ r, P r → r.kind = k) :
    Tells mode P x (x.within k) fun a b r => a = b ∧ P r := by
  intro s t stands here
  obtain rfl := stands.bare
  have spared := h.spares t
  have result := h.result t
  have left := h.left t
  have after : Stands mode (x.run t).2.bare (x.run t).2 :=
    ⟨rfl, by rw [spared]; exact stands.runs, by rw [spared]; exact stands.passed⟩
  rw [← spared] at here
  unfold within
  rcases came : x.run t with ⟨e | a, t'⟩
  · rw [came] at result left after here
    rcases told : x.run t.bare with ⟨e' | a', t''⟩
    · rw [told] at result left
      cases result
      exact .stopped ⟨k, e, t''.bare⟩ (left ▸ after) (there _ here)
    · rw [told] at result
      cases result
  · rw [came] at result left after here
    rcases told : x.run t.bare with ⟨e' | a', t''⟩
    · rw [told] at result
      cases result
    · rw [told] at result left
      cases result
      exact .done (left ▸ after) ⟨rfl, here⟩

theorem Plain.tells_bind {x : Work α} (h : Plain x) {k : RunState.Kind}
    (there : ∀ r, P r → r.kind = k) {f : α → Work γ} {g : α → Leg δ} {R : γ → δ → RunState → Prop}
    (hf : ∀ a, Tells mode P (f a) (g a) R) : Tells mode P (x >>= f) (x.within k >>= g) R := by
  refine (h.tells there).bind fun a b => ?_
  rintro s t stands ⟨rfl, here⟩
  exact hf a s t stands here

/-- An event that a state waits for is accepted, and nothing but the machine changes. -/
theorem tells_transition {e : RunEvent} {Q : RunState → Prop}
    (awaited : ∀ r, P r → ∃ k, mode.step? r.kind = some (e.kind, k)) (inside : e ≠ .complete)
    (asked : ∀ config, e = .begin config → config.mode = .ok mode)
    (leads : ∀ states g r r', P r → r.RunsIn mode → r.Leads states g e r' → Q r') :
    Tells mode P (transition e) (pure ()) fun a _ r => a = r ∧ Q r := by
  intro s t stands here
  obtain ⟨k, step⟩ := awaited _ here
  obtain ⟨r, led⟩ := RunState.leads_of_step? t.pipeline.machine.history.length (g := t.gauges)
    stands.runs step fun last => absurd (by cases e <;> cases last; rfl) inside
  obtain ⟨after, once⟩ := Machine.transition_ok led
  have still := Machine.transition_still inside t.pipeline.machine t.gauges
  rw [once] at still
  obtain ⟨ahead, runs⟩ := led.runsIn stands.runs (Mode.step?_ne_fail step) asked
  have arrived : k = r.kind := by
    rw [(Mode.rest_of_step? stands.runs.met step).1] at ahead
    exact (Prod.mk.inj (List.cons.inj ahead).1).2
  have passed : (t.pipeline.machine.push e r).history.map RunState.kind = mode.upTo r.kind := by
    rw [← arrived, Mode.upTo_step stands.runs.met step, ← stands.passed, arrived]
    simp [Machine.push]
  have moved : (transition e).run t =
      (.ok r, { t with
        pipeline := { t.pipeline with machine := t.pipeline.machine.push e r }
        journal := t.journal ++
          [⟨.pipeline, .debug, (Machine.stepNote t.pipeline.machine.state r e).text⟩] }) := by
    unfold transition
    rw [run_get, once, ← show after = t.gauges from still]
    rfl
  rw [moved]
  exact .done ⟨stands.bare, runs, passed⟩ ⟨rfl, leads _ _ _ _ here stands.runs led⟩

/-- An event takes the machine from one kind of state to the next. -/
theorem tells_step (e : RunEvent) {k k' : RunState.Kind} (there : ∀ r, P r → r.kind = k)
    (step : mode.step? k = some (e.kind, k')) (inside : e ≠ .complete)
    (asked : ∀ config, e = .begin config → config.mode = .ok mode) :
    Tells mode P (transition e) (pure ()) fun a _ r => a = r ∧ r.kind = k' := by
  refine tells_transition (fun r here => ⟨k', there r here ▸ step⟩) inside asked ?_
  intro states g r r' here runs led
  obtain ⟨ahead, _⟩ := led.runsIn runs (Mode.step?_ne_fail step) asked
  have step' : mode.step? r.kind = some (e.kind, k') := there r here ▸ step
  rw [(Mode.rest_of_step? runs.met step').1] at ahead
  exact (Prod.mk.inj (List.cons.inj ahead).1).2.symm

/-- Only the first event brings settings along. -/
theorem asked_of_kind {e : RunEvent} (other : e.kind ≠ .begin) (config : Cargo)
    (same : e = .begin config) : config.mode = .ok mode :=
  absurd (congrArg RunEvent.kind same) other

theorem tells_send (e : RunEvent) {k k' : RunState.Kind} (there : ∀ r, P r → r.kind = k)
    (step : mode.step? k = some (e.kind, k')) (inside : e ≠ .complete) (other : e.kind ≠ .begin) :
    Tells mode P (discard (transition e)) (pure ()) fun _ _ r => r.kind = k' :=
  (tells_step e there step inside (asked_of_kind other)).after fun _ =>
    (tells_pure () ()).imp fun _ _ _ h => h.2.2.2

end Work

namespace Pipeline

open Work

variable {mode : Mode}

theorem gather_eq (schema : Schema) (v : Value) : gather schema v = (do
    let files ← listFiles
    discard <| transition (.parseFrontmatter (.value (.tuple (files.map .str))))
    let data ← digest schema v files
    discard <| transition (.frontmatterParseComplete (.value (.map data)))
    if let .validatingData _ _ _ ← transition .validateData then
      discard <| transition (.validationComplete (.value (.map data)))
    return data) := by
  simp only [digest, bind_assoc, pure_bind]
  rfl

theorem produce_eq (output : OutputConfig) (path : Option String) (data : Value) :
    produce output path data = (do
      let template ← loadTemplate path
      discard <| transition (.templateLoadComplete (templateCargo template))
      discard <| transition .generateOutput
      let text ← express template output data
      discard <| transition (.outputGenerationComplete (.value (.str text)))) := by
  simp only [produce, loadTemplate, express, bind_assoc]
  cases output.path.truthy <;>
    simp only [Bool.false_eq_true, if_false, if_true, bind_assoc, pure_bind]

/-- The files are listed, read and checked on the way from the schema to checked data. -/
theorem tells_gather (schema : Schema) (v : Value) :
    Tells mode (·.kind = .schemaLoaded) (gather schema v) (do
      let files ← listFiles.within .schemaLoaded
      (digest schema v files).within .parsingFrontmatter)
    fun a b r => a = b ∧ r.kind = .dataValidated := by
  rw [gather_eq]
  refine plain_listFiles.tells_bind (fun _ => id) fun files => ?_
  refine (tells_send (.parseFrontmatter _) (fun _ => id) rfl nofun nofun).after fun _ => ?_
  -- what is read is told of here, and the events after it add nothing to it
  rw [← bind_pure ((digest schema v files).within .parsingFrontmatter)]
  refine (plain_digest schema v files).tells_bind (fun _ => id) fun data => ?_
  refine (tells_send (.frontmatterParseComplete _) (fun _ => id) rfl nofun nofun).after fun _ => ?_
  refine (tells_step .validateData (fun _ => id) rfl nofun (asked_of_kind nofun)).after fun r => ?_
  cases r with
  | validatingData config schema' found =>
    refine (tells_send (.validationComplete _) (k := .validatingData) (fun _ here => ?_) rfl nofun
      nofun).after fun _ => ?_
    · rw [← here.1]
      rfl
    · exact (tells_pure data data).imp fun _ _ _ ⟨one, two, there⟩ => ⟨one.trans two.symm, there⟩
  | _ =>
    refine (tells_pure data data).imp fun _ _ r' ⟨one, two, same, there⟩ =>
      ⟨one.trans two.symm, ?_⟩
    subst same
    by_cases skips : mode = .templateOnly
    · rw [there, if_pos skips]
    · rw [if_neg skips] at there
      cases there

/-- The template is loaded and filled, and the text written, on the way from the decision to
render to the output. -/
theorem tells_produce (output : OutputConfig) (path : Option String) (data : Value) :
    Tells mode (·.kind = .loadingTemplate) (produce output path data) (do
      let template ← (loadTemplate path).within .loadingTemplate
      (express template output data).within .generatingOutput)
    fun _ text r => ∃ config, r = .outputGenerated config (.value (.str text)) := by
  rw [produce_eq]
  refine (plain_loadTemplate path).tells_bind (fun _ => id) fun template => ?_
  refine (tells_send (.templateLoadComplete _) (fun _ => id) rfl nofun nofun).after fun _ => ?_
  refine (tells_send .generateOutput (fun _ => id) rfl nofun nofun).after fun _ => ?_
  rw [← bind_pure ((express template output data).within .generatingOutput)]
  refine (plain_express template output data).tells_bind (fun _ => id) fun text => ?_
  refine Tells.after (Q := fun _ _ r => ∃ config, r = .outputGenerated config (.value (.str text)))
    ?_ fun _ => (tells_pure () text).imp fun _ _ _ ⟨_, two, made⟩ => two ▸ made
  refine (tells_transition (e := .outputGenerationComplete (.value (.str text)))
    (Q := fun r => ∃ config, r = .outputGenerated config (.value (.str text)))
    ?_ nofun (asked_of_kind nofun) ?_).imp fun _ _ _ h => h.2
  · intro r here
    exact ⟨.outputGenerated, congrArg mode.step? here⟩
  · intro states g r r' here runs led
    cases led with
    | outputGenerationComplete config => exact ⟨config, rfl⟩

/-- To be closed, a run reads memory once. -/
theorem transition_complete {m : Machine} {config output : Cargo}
    (here : m.state = .outputGenerated config output) (asked : config.mode = .ok mode)
    (g : Gauges) : m.transition .complete g =
      match g.megabytes with
      | .ok memory =>
        let done := .completed output (RunState.tally mode m.history.length memory)
        (.ok done, m.push .complete done, g.readMemory.2)
      | .error e => (.error e, m, g.readMemory.2) := by
  have result := RunState.close_eq config output m.history.length g
  have after : (RunState.close config output m.history.length g).2 = g.readMemory.2 := by
    simp only [RunState.close, asked]
  have next : (RunState.outputGenerated config output).next .complete m.history.length g =
    RunState.close config output m.history.length g := rfl
  unfold Machine.transition
  rw [here, next]
  rw [asked] at result
  generalize RunState.close config output m.history.length g = closed at result after ⊢
  obtain ⟨r, g'⟩ := closed
  obtain rfl : r = _ := result
  obtain rfl : g' = _ := after
  cases g.megabytes <;> rfl

/-- The last event of a run closes it, if memory can be told. -/
theorem tells_complete (text : String) :
    Tells mode (fun r => ∃ config, r = .outputGenerated config (.value (.str text)))
      (transition .complete) (measure.within .outputGenerated)
      fun a _ r => a = r ∧ ∃ tally, r = .completed (.value (.str text)) tally := by
  rintro s t stands ⟨config, here⟩
  obtain rfl := stands.bare
  have asked : config.mode = .ok mode := stands.runs.asks config (by rw [here]; rfl)
  have once := transition_complete here asked t.gauges
  have read : measure.run t.bare =
    (t.gauges.megabytes, { t with gauges := t.gauges.readMemory.2 }.bare) := rfl
  unfold within transition
  rw [read, run_get, once]
  cases told : t.gauges.megabytes with
  | ok memory =>
    have led : RunState.Leads t.pipeline.machine.history.length t.gauges _ .complete _ :=
      .complete config (.value (.str text)) mode memory asked told
    rw [← here] at led
    obtain ⟨ahead, runs⟩ := led.runsIn stands.runs nofun (asked_of_kind nofun)
    have step : mode.step? t.pipeline.machine.state.kind = some (.complete, .completed) := by
      rw [here]
      rfl
    have passed := Mode.upTo_step stands.runs.met step
    rw [← stands.passed] at passed
    refine .done ⟨rfl, runs, ?_⟩ ⟨rfl, _, rfl⟩
    refine Eq.trans ?_ passed.symm
    simp [Machine.push, RunState.kind]
  | error e =>
    exact .stopped ⟨.outputGenerated, e, _⟩ ⟨rfl, stands.runs, stands.passed⟩
      (congrArg RunState.kind here)

/-- Where data is checked, the mode decides whether there is more to do. -/
theorem tells_loadTemplate (path : Cargo) :
    Tells mode (·.kind = .dataValidated) (transition (.loadTemplate path)) (pure ()) fun a _ r =>
      a = r ∧ if mode = .validationOnly then
        ∃ config, r = .outputGenerated config (.value (.str RunState.validationOutput))
      else r.kind = .loadingTemplate := by
  refine tells_transition (fun r here => ⟨_, congrArg mode.step? here⟩) nofun (asked_of_kind nofun) ?_
  intro states g r r' here runs led
  cases led with
  | stopShort config schema data path asked =>
    obtain rfl := Except.ok.inj ((runs.asks config rfl).symm.trans asked)
    rw [if_pos rfl]
    exact ⟨config, rfl⟩
  | loadTemplate config schema data path mode' asked renders =>
    obtain rfl := Except.ok.inj ((runs.asks config rfl).symm.trans asked)
    rw [if_neg renders]
    rfl

theorem tells_close (text : String) :
    Tells mode (fun r => ∃ config, r = .outputGenerated config (.value (.str text)))
      (transition .complete) (do
        let _ ← measure.within .outputGenerated
        return text)
      fun a text r => a = r ∧ ∃ tally, r = .completed (.value (.str text)) tally := by
  rw [← bind_pure (transition .complete)]
  refine (tells_complete text).bind (f := pure) (g := fun _ => pure text) fun a _ => ?_
  exact (tells_pure a text).imp fun _ _ _ ⟨one, two, here⟩ => by rw [one, two]; exact here

theorem tells_deliver (config : Config) (asks : config.chosenMode = mode) (schema : Schema)
    (data : Entries) : Tells mode (·.kind = .dataValidated) (do
      let output ← ofOutcome (config.output.get "template_path" : Except Mishap _)
      let path ← ofOutcome (templatePath output schema : Except Mishap _)
      if let .loadingTemplate _ _ _ _ ←
          transition (.loadTemplate (.value (.str (path.getD "")))) then
        produce output path (.map data)
      transition .complete) (deliver config schema data)
    fun a text r => a = r ∧ ∃ tally, r = .completed (.value (.str text)) tally := by
  unfold deliver
  refine (plain_ofOutcome _).tells_bind (fun _ => id) fun output => ?_
  refine (plain_ofOutcome _).tells_bind (fun _ => id) fun path => ?_
  refine (tells_loadTemplate _).after fun r => ?_
  rintro s t stands ⟨same, here⟩
  rw [rendering, asks]
  by_cases stops : mode = .validationOnly
  · rw [if_pos stops] at here
    obtain ⟨config', made⟩ := here
    obtain rfl := same.trans made
    rw [if_pos stops]
    exact tells_close _ s t stands ⟨config', made⟩
  · rw [if_neg stops] at here
    rw [if_neg stops]
    subst same
    generalize found : t.pipeline.machine.state = r at here
    cases r with
    | loadingTemplate config' schema' data' path' =>
      refine ((tells_produce output path (.map data)).bind fun _ text => tells_close text) s t
        stands ?_
      rw [found]
      rfl
    | _ => cases here

theorem tells_stages (config : Config) (asks : config.chosenMode = mode) :
    Tells mode (·.kind = .initializing) (stages config) (recount config)
    fun a text r => a = r ∧ ∃ tally, r = .completed (.value (.str text)) tally := by
  have told : recount config = (do
    let schema ← loadSchema.within .loadingSchema
    let data ← (do
      let files ← listFiles.within .schemaLoaded
      (digest schema config.mode files).within .parsingFrontmatter)
    deliver config schema data) := by
    simp only [recount, survey, bind_assoc, pure_bind]
  rw [told]
  refine (tells_send (.loadSchema _) (fun _ => id) rfl nofun nofun).after fun _ => ?_
  refine plain_loadSchema.tells_bind (fun _ => id) fun schema => ?_
  refine (tells_send (.schemaLoadComplete _) (fun _ => id) rfl nofun nofun).after fun _ => ?_
  refine (tells_gather schema config.mode).bind fun data data' => ?_
  rintro s t stands ⟨rfl, here⟩
  exact tells_deliver config asks schema data s t stands here

end Pipeline
end Quire
