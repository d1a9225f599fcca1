import Quire.Proofs.Machine.Step

/-! The course of a run in each mode, and the events that a new machine accepts
one after another: the first part of a course, or a part that stops before the
end and a failure after it. The history and the closing figures are those of
the course. -/

namespace Quire

namespace Mode

/-- The events of a run and the states that they lead to. -/
def course (mode : Mode) : List (RunEvent.Kind × RunState.Kind) :=
  [(.begin, .initializing), (.loadSchema, .loadingSchema), (.schemaLoadComplete, .schemaLoaded),
    (.parseFrontmatter, .parsingFrontmatter), (.frontmatterParseComplete, .frontmatterParsed)]
  ++ (match mode with
    | .templateOnly => [(.validateData, .dataValidated)]
    | _ => [(.validateData, .validatingData), (.validationComplete, .dataValidated)])
  ++ (match mode with
    | .validationOnly => [(.loadTemplate, .outputGenerated)]
    | _ => [(.loadTemplate, .loadingTemplate), (.templateLoadComplete, .templateLoaded),
      (.generateOutput, .generatingOutput), (.outputGenerationComplete, .outputGenerated)])
  ++ [(.complete, .completed)]

def states (mode : Mode) : List RunState.Kind := .idle :: mode.course.map (·.2)

/-- What is left of the course after a state. -/
def rest (mode : Mode) (k : RunState.Kind) : List (RunEvent.Kind × RunState.Kind) :=
  mode.course.drop (mode.states.idxOf k)

/-- The first part of some steps, or less than all of them and a failure. -/
def Admitted (steps : List (RunEvent.Kind × RunState.Kind)) (kinds : List RunEvent.Kind) : Prop :=
  kinds <+: steps.map (·.1) ∨
    ∃ front, kinds = front ++ [.fail] ∧ front <+: steps.map (·.1) ∧ front ≠ steps.map (·.1)

theorem admitted_nil {kinds : List RunEvent.Kind} (h : Admitted [] kinds) : kinds = [] := by
  rcases h with whole | ⟨front, rfl, before, short⟩
  · exact List.prefix_nil.mp whole
  · exact absurd (List.prefix_nil.mp before) short

theorem admitted_cons {steps : List (RunEvent.Kind × RunState.Kind)} {e : RunEvent.Kind}
    {kinds : List RunEvent.Kind} (h : Admitted steps (e :: kinds)) :
    (∃ t rest, steps = (e, t) :: rest ∧ Admitted rest kinds) ∨
    (e = .fail ∧ kinds = [] ∧ steps ≠ []) := by
  cases steps with
  | nil => cases admitted_nil h
  | cons step rest =>
    obtain ⟨e', t⟩ := step
    rcases h with whole | ⟨front, split, before, short⟩
    · obtain ⟨rfl, tail⟩ := List.cons_prefix_cons.mp whole
      exact .inl ⟨t, rest, rfl, .inl tail⟩
    · cases front with
      | nil =>
        cases split
        exact .inr ⟨rfl, rfl, List.cons_ne_nil _ _⟩
      | cons e'' front =>
        obtain ⟨rfl, tail⟩ := List.cons_prefix_cons.mp before
        obtain ⟨rfl, rfl⟩ := List.cons.inj split
        refine .inl ⟨t, rest, rfl, .inr ⟨front, rfl, tail, ?_⟩⟩
        rintro rfl
        exact short rfl

/-- The step that a state waits for. -/
def step? (mode : Mode) : RunState.Kind → Option (RunEvent.Kind × RunState.Kind)
  | .idle => some (.begin, .initializing)
  | .initializing => some (.loadSchema, .loadingSchema)
  | .loadingSchema => some (.schemaLoadComplete, .schemaLoaded)
  | .schemaLoaded => some (.parseFrontmatter, .parsingFrontmatter)
  | .parsingFrontmatter => some (.frontmatterParseComplete, .frontmatterParsed)
  | .frontmatterParsed =>
    some (.validateData, if mode = .templateOnly then .dataValidated else .validatingData)
  | .validatingData => some (.validationComplete, .dataValidated)
  | .dataValidated =>
    some (.loadTemplate, if mode = .validationOnly then .outputGenerated else .loadingTemplate)
  | .loadingTemplate => some (.templateLoadComplete, .templateLoaded)
  | .templateLoaded => some (.generateOutput, .generatingOutput)
  | .generatingOutput => some (.outputGenerationComplete, .outputGenerated)
  | .outputGenerated => some (.complete, .completed)
  | .completed => none
  | .failed => none

theorem rest_of_step? {mode : Mode} {e : RunEvent.Kind} {k t : RunState.Kind}
    (met : k ∈ mode.states) (h : mode.step? k = some (e, t)) :
    mode.rest k = (e, t) :: mode.rest t ∧ t ∈ mode.states := by
  revert met
  cases mode <;> cases k <;> cases h <;> decide

theorem step?_eq_none {mode : Mode} {k : RunState.Kind} (h : mode.step? k = none) :
    k = .completed ∨ k = .failed := by
  cases k with
  | completed => exact .inl rfl
  | failed => exact .inr rfl
  | _ => cases h

theorem rest_of_step?_none {mode : Mode} {k : RunState.Kind} (h : mode.step? k = none) :
    mode.rest k = [] := by
  cases k with
  | completed => cases mode <;> rfl
  | failed => cases mode <;> rfl
  | _ => cases h

theorem step?_ne_fail {mode : Mode} {e : RunEvent.Kind} {k t : RunState.Kind}
    (h : mode.step? k = some (e, t)) : e ≠ .fail := by
  cases k <;> cases h <;> decide

end Mode

/-- The memory reading can be told, so a run can be closed. -/
def Gauges.Readable (g : Gauges) : Prop := ∃ memory, g.megabytes = .ok memory

namespace RunState

/-- The settings stand first in whatever carries them. -/
def config? (s : RunState) : Option Cargo := s.cargo.head?.map (·.2)

/-- A state that runs in a mode pass through, with settings for that mode. -/
structure RunsIn (mode : Mode) (s : RunState) : Prop where
  met : s.kind ∈ mode.states
  asks : ∀ config, s.config? = some config → config.mode = .ok mode

theorem Leads.kind_ne_idle {s t : RunState} {e : RunEvent} {states : Nat} {g : Gauges}
    (h : Leads states g s e t) : t.kind ≠ .idle := by
  cases h <;> simp [kind]

/-- A step that is no failure is the one that its state waits for, in any mode that
the settings do not speak against. -/
theorem Leads.awaited {mode : Mode} {s t : RunState} {e : RunEvent} {states : Nat} {g : Gauges}
    (h : Leads states g s e t) (proper : e.kind ≠ .fail)
    (allowed : ∀ config other, s.config? = some config → config.mode = .ok other → other = mode) :
    mode.step? s.kind = some (e.kind, t.kind) := by
  cases h with
  | fail error going => exact absurd rfl proper
  | passOver config schema data skips =>
    have same := allowed config _ rfl skips
    subst same
    rfl
  | validateData config schema data other asks checks =>
    have same := allowed config other rfl asks
    subst same
    simp [Mode.step?, kind, RunEvent.kind, checks]
  | stopShort config schema data path skips =>
    have same := allowed config _ rfl skips
    subst same
    rfl
  | loadTemplate config schema data path other asks renders =>
    have same := allowed config other rfl asks
    subst same
    simp [Mode.step?, kind, RunEvent.kind, renders]
  | _ => rfl

/-- The settings that a run begins with go with it to the last state but one. -/
theorem Leads.config? {s t : RunState} {e : RunEvent} {states : Nat} {g : Gauges}
    (h : Leads states g s e t) {config : Cargo} (carried : t.config? = some config) :
    s.config? = some config ∨ e = .begin config := by
  cases h with
  | begin other =>
    cases carried
    exact .inr rfl
  | fail error going => cases carried
  | complete => cases carried
  | _ => exact .inl carried

theorem RunsIn.rest_ne_nil {mode : Mode} {s : RunState} (runs : s.RunsIn mode)
    (going : s.isTerminal = false) : mode.rest s.kind ≠ [] := by
  cases awaited : mode.step? s.kind with
  | none =>
    rw [(isTerminal_iff s).mpr (Mode.step?_eq_none awaited)] at going
    cases going
  | some step =>
    rw [(Mode.rest_of_step? runs.met awaited).1]
    exact List.cons_ne_nil _ _

theorem Leads.of_begin {s t : RunState} {config : Cargo} {states : Nat} {g : Gauges}
    (h : Leads states g s (.begin config) t) : s = .idle := by
  cases h
  rfl

theorem Leads.of_fail {s t : RunState} {e : RunEvent} {states : Nat} {g : Gauges}
    (h : Leads states g s e t) (failure : e.kind = .fail) : t.kind = .failed := by
  cases h with
  | fail error going => rfl
  | _ => cases failure

theorem Leads.of_complete {s t : RunState} {states : Nat} {g : Gauges}
    (h : Leads states g s .complete t) : g.Readable ∧ t.kind = .completed := by
  cases h with
  | complete config output mode memory asked read => exact ⟨⟨memory, read⟩, rfl⟩

theorem Leads.runsIn {mode : Mode} {s t : RunState} {e : RunEvent} {states : Nat} {g : Gauges}
    (h : Leads states g s e t) (runs : s.RunsIn mode) (proper : e.kind ≠ .fail)
    (asked : ∀ config, e = .begin config → config.mode = .ok mode) :
    mode.rest s.kind = (e.kind, t.kind) :: mode.rest t.kind ∧ t.RunsIn mode := by
  have awaited := h.awaited proper fun config other carried told =>
    Except.ok.inj (told.symm.trans (runs.asks config carried))
  obtain ⟨ahead, met⟩ := Mode.rest_of_step? runs.met awaited
  refine ⟨ahead, met, fun config carried => ?_⟩
  rcases h.config? carried with kept | begun
  · exact runs.asks config kept
  · exact asked config begun

theorem Leads.figures {mode : Mode} {s : RunState} {e : RunEvent} {output : Cargo}
    {figures : RunTally} {states : Nat} {g : Gauges}
    (h : Leads states g s e (.completed output figures)) (runs : s.RunsIn mode) :
    ∃ memory, figures = tally mode states memory := by
  cases h with
  | complete config output other memory asked read =>
    have same : mode = other := Except.ok.inj ((runs.asks config rfl).symm.trans asked)
    exact ⟨memory, by rw [same]⟩

/-- Where a state waits for an event, the event takes it there. -/
theorem leads_of_step? {mode : Mode} {s : RunState} {e : RunEvent} {t : Kind} (states : Nat)
    {g : Gauges} (runs : s.RunsIn mode) (h : mode.step? s.kind = some (e.kind, t))
    (readable : e.kind = .complete → g.Readable) :
    ∃ t, Leads states g s e t := by
  cases s with
  | frontmatterParsed config schema data =>
    cases e <;> cases h
    have asked := runs.asks config rfl
    by_cases skips : mode = .templateOnly
    · exact ⟨_, .passOver config schema data (skips ▸ asked)⟩
    · exact ⟨_, .validateData config schema data mode asked skips⟩
  | dataValidated config schema data =>
    cases e <;> cases h
    have asked := runs.asks config rfl
    by_cases skips : mode = .validationOnly
    · exact ⟨_, .stopShort config schema data _ (skips ▸ asked)⟩
    · exact ⟨_, .loadTemplate config schema data _ mode asked skips⟩
  | outputGenerated config output =>
    cases e <;> cases h
    obtain ⟨memory, read⟩ := readable rfl
    exact ⟨_, .complete config output mode memory (runs.asks config rfl) read⟩
  | completed output figures => cases h
  | failed error previous => cases h
  | _ =>
    cases e <;> cases h
    exact ⟨_, by constructor⟩

end RunState

namespace Machine

/-- Sends events one after another for as long as they are accepted. -/
def follow (m : Machine) (g : Gauges) : List RunEvent → Outcome (Machine × Gauges)
  | [] => .ok (m, g)
  | e :: es =>
    match m.transition e g with
    | (.ok _, m, g) => m.follow g es
    | (.error f, _, _) => .error f

theorem follow_cons {m : Machine} {g : Gauges} {e : RunEvent} {es : List RunEvent}
    {r : Machine × Gauges} : m.follow g (e :: es) = .ok r ↔
      ∃ s after, m.state.Leads m.history.length g e s ∧
        m.transition e g = (.ok s, m.push e s, after) ∧ (m.push e s).follow after es = .ok r := by
  constructor
  · intro whole
    rcases m.transition_cases e g with ⟨s, after, once, step⟩ | ⟨f, after, once, _⟩
    · rw [follow, once] at whole
      exact ⟨s, after, step, once, whole⟩
    · rw [follow, once] at whole
      cases whole
  · rintro ⟨s, after, _, once, tail⟩
    rw [follow, once]
    exact tail

theorem follow_terminal {m : Machine} (terminal : m.state.isTerminal = true) {g : Gauges}
    {es : List RunEvent} {r : Machine × Gauges} (h : m.follow g es = .ok r) :
    es = [] ∧ r = (m, g) := by
  cases es with
  | nil =>
    cases h
    exact ⟨rfl, rfl⟩
  | cons e es =>
    obtain ⟨s, after, step, _, _⟩ := follow_cons.mp h
    rw [step.going] at terminal
    cases terminal

/-- A machine at the end of a course has the closing figures of its mode. -/
def Closed (mode : Mode) (m : Machine) : Prop := ∀ output figures,
  m.state = .completed output figures →
    ∃ memory, figures = RunState.tally mode (m.history.length - 1) memory

/-- What events along a course, with or without a failure at the end, have made
of a machine. -/
inductive Reaches (mode : Mode) (m : Machine) (kinds : List RunEvent.Kind) (m' : Machine) : Prop
  | onCourse (steps : List (RunEvent.Kind × RunState.Kind))
      (ahead : mode.rest m.state.kind = steps ++ mode.rest m'.state.kind)
      (sent : kinds = steps.map (·.1))
      (passed : m'.history.map RunState.kind = m.history.map RunState.kind ++ steps.map (·.2))
      (closed : m'.Closed mode)
  | failing (steps left : List (RunEvent.Kind × RunState.Kind))
      (ahead : mode.rest m.state.kind = steps ++ left) (unfinished : left ≠ [])
      (sent : kinds = steps.map (·.1) ++ [.fail])
      (passed : m'.history.map RunState.kind =
        m.history.map RunState.kind ++ steps.map (·.2) ++ [.failed])
      (ended : m'.state.kind = .failed)

theorem Reaches.cons {mode : Mode} {m m' : Machine} {e : RunEvent} {s : RunState}
    {kinds : List RunEvent.Kind}
    (ahead : mode.rest m.state.kind = (e.kind, s.kind) :: mode.rest s.kind)
    (h : Reaches mode (m.push e s) kinds m') : Reaches mode m (e.kind :: kinds) m' := by
  cases h with
  | onCourse steps ahead' sent passed closed =>
    refine .onCourse ((e.kind, s.kind) :: steps) ?_ (by simp [sent]) ?_ closed
    · rw [ahead, List.cons_append, ← ahead']
      rfl
    · simp [passed, push]
  | failing steps left ahead' unfinished sent passed ended =>
    refine .failing ((e.kind, s.kind) :: steps) left ?_ unfinished (by simp [sent]) ?_ ended
    · rw [ahead, List.cons_append, ← ahead']
      rfl
    · simp [passed, push]

theorem reaches_of_follow {mode : Mode} {m m' : Machine} {g g' : Gauges} {es : List RunEvent}
    (runs : m.state.RunsIn mode) (closed : m.Closed mode)
    (asked : m.state.kind = .idle → ∀ config, es.head? = some (.begin config) →
      config.mode = .ok mode)
    (h : m.follow g es = .ok (m', g')) : Reaches mode m (es.map RunEvent.kind) m' := by
  induction es generalizing m g with
  | nil =>
    cases h
    exact .onCourse [] rfl rfl (by simp) closed
  | cons e es ih =>
    obtain ⟨s, after, step, _, tail⟩ := follow_cons.mp h
    by_cases failure : e.kind = .fail
    · have ended := step.of_fail failure
      have terminal := (RunState.isTerminal_iff s).mpr (.inr ended)
      obtain ⟨rfl, whole⟩ := follow_terminal (m := m.push e s) terminal tail
      cases whole
      exact .failing [] _ rfl (runs.rest_ne_nil step.going) (by simp [failure])
        (by simp [push, ended]) ended
    · have begun : ∀ config, e = .begin config → config.mode = .ok mode := by
        rintro config rfl
        exact asked (by rw [step.of_begin]; rfl) config rfl
      obtain ⟨ahead, runs'⟩ := step.runsIn runs failure begun
      have closed' : (m.push e s).Closed mode := by
        intro output figures ended
        have ended : s = .completed output figures := ended
        subst ended
        simpa [push] using step.figures runs
      refine .cons ahead (ih runs' closed' ?_ tail)
      intro idle
      exact absurd idle step.kind_ne_idle

theorem follow_of_admitted {mode : Mode} {m : Machine} {g : Gauges} {es : List RunEvent}
    (runs : m.state.RunsIn mode)
    (asked : m.state.kind = .idle → ∀ config, es.head? = some (.begin config) →
      config.mode = .ok mode)
    (readable : .complete ∈ es.map RunEvent.kind → g.Readable)
    (h : Mode.Admitted (mode.rest m.state.kind) (es.map RunEvent.kind)) :
    ∃ r, m.follow g es = .ok r := by
  induction es generalizing m g with
  | nil => exact ⟨_, rfl⟩
  | cons e es ih =>
    rcases Mode.admitted_cons h with ⟨t, rest, ahead, tail⟩ | ⟨failure, last, unfinished⟩
    · have awaited : mode.step? m.state.kind = some (e.kind, t) := by
        cases found : mode.step? m.state.kind with
        | none =>
          rw [Mode.rest_of_step?_none found] at ahead
          cases ahead
        | some step =>
          obtain ⟨e', t'⟩ := step
          rw [(Mode.rest_of_step? runs.met found).1] at ahead
          rw [(List.cons.inj ahead).1]
      have begun : ∀ config, e = .begin config → config.mode = .ok mode := by
        rintro config rfl
        refine asked ?_ config rfl
        revert awaited
        cases m.state <;> simp [RunState.kind, Mode.step?, RunEvent.kind]
      obtain ⟨s, step⟩ := RunState.leads_of_step? m.history.length runs awaited
        fun last => readable (by simp [last])
      obtain ⟨after, once⟩ := transition_ok step
      obtain ⟨ahead', runs'⟩ := step.runsIn runs (Mode.step?_ne_fail awaited) begun
      have tail' : Mode.Admitted (mode.rest s.kind) (es.map RunEvent.kind) := by
        rw [ahead'] at ahead
        rwa [(List.cons.inj ahead).2]
      have readable' : .complete ∈ es.map RunEvent.kind → after.Readable := by
        intro member
        by_cases last : e = .complete
        -- nothing can follow the last event, and no other one reads a gauge
        · subst last
          rw [step.of_complete.2, Mode.rest_of_step?_none rfl] at tail'
          rw [Mode.admitted_nil tail'] at member
          cases member
        · have still := transition_still last m g
          rw [once] at still
          rw [show after = g from still]
          exact readable (List.mem_cons_of_mem _ member)
      obtain ⟨r, whole⟩ := ih (m := m.push e s) runs'
        (fun idle => absurd idle step.kind_ne_idle) readable' tail'
      exact ⟨r, follow_cons.mpr ⟨s, after, step, once, whole⟩⟩
    · have going : m.state.isTerminal = false := by
        cases ended : m.state.isTerminal with
        | false => rfl
        | true =>
          have none : mode.step? m.state.kind = none := by
            rcases (RunState.isTerminal_iff _).mp ended with h | h <;> rw [h] <;> rfl
          exact absurd (Mode.rest_of_step?_none none) unfinished
      cases List.map_eq_nil_iff.mp last
      cases e with
      | fail error =>
        obtain ⟨after, once⟩ := transition_ok (g := g) (.fail error going)
        exact ⟨_, follow_cons.mpr ⟨_, after, .fail error going, once, rfl⟩⟩
      | _ => cases failure

theorem readable_of_follow {m : Machine} {g : Gauges} {es : List RunEvent} {r : Machine × Gauges}
    (h : m.follow g es = .ok r) (closes : .complete ∈ es.map RunEvent.kind) : g.Readable := by
  induction es generalizing m g with
  | nil => cases closes
  | cons e es ih =>
    obtain ⟨s, after, step, once, tail⟩ := follow_cons.mp h
    by_cases last : e = .complete
    · subst last
      exact step.of_complete.1
    · have still := transition_still last m g
      rw [once] at still
      have closes' : .complete ∈ es.map RunEvent.kind := by
        rcases List.mem_cons.mp closes with here | later
        · exact absurd (by cases e <;> cases here; rfl) last
        · exact later
      exact still ▸ ih tail closes'

end Machine

namespace Mode

/-- The states of a run after events that are admitted. -/
def passed (mode : Mode) (kinds : List RunEvent.Kind) : List RunState.Kind :=
  mode.states.take ((kinds.filter (· ≠ .fail)).length + 1) ++
    if .fail ∈ kinds then [.failed] else []

theorem fail_notMem_course {mode : Mode} {steps left : List (RunEvent.Kind × RunState.Kind)}
    (ahead : mode.course = steps ++ left) : .fail ∉ steps.map (·.1) := by
  have whole : .fail ∉ mode.course.map (·.1) := by cases mode <;> decide
  rw [ahead, List.map_append] at whole
  exact fun h => whole (List.mem_append_left _ h)

theorem passed_course {mode : Mode} {steps left : List (RunEvent.Kind × RunState.Kind)}
    (ahead : mode.course = steps ++ left) :
    mode.passed (steps.map (·.1)) = .idle :: steps.map (·.2) := by
  have proper := fail_notMem_course ahead
  have kept : (steps.map (·.1)).filter (· ≠ .fail) = steps.map (·.1) :=
    List.filter_eq_self.mpr fun k h => by
      have other : k ≠ .fail := fun same => proper (same ▸ h)
      simpa using other
  simp only [passed, kept, states, ahead, proper, if_false, List.append_nil, List.length_map,
    List.take_succ_cons, List.map_append]
  rw [List.take_append_of_le_length (by simp), List.take_of_length_le (by simp)]

theorem passed_fail (mode : Mode) {steps left : List (RunEvent.Kind × RunState.Kind)}
    (ahead : mode.course = steps ++ left) :
    mode.passed (steps.map (·.1) ++ [.fail]) = .idle :: steps.map (·.2) ++ [.failed] := by
  have proper := fail_notMem_course ahead
  rw [← passed_course ahead]
  simp [passed, proper]

end Mode

namespace Machine

theorem runsIn_new (mode : Mode) : (Machine.state {}).RunsIn mode where
  met := by cases mode <;> decide
  asks := by
    intro config carried
    cases carried

theorem rest_new (mode : Mode) : mode.rest (Machine.state {}).kind = mode.course := by
  cases mode <;> rfl

/-- With nothing left of the course, the history holds all of it. -/
theorem figures_of_course {mode : Mode} {memory : Binary64} {figures : RunTally}
    {steps : List (RunEvent.Kind × RunState.Kind)} {kinds : List RunState.Kind}
    (ahead : mode.course = steps) (passed : kinds = .idle :: steps.map (·.2))
    (told : figures = RunState.tally mode (kinds.length - 1) memory) :
    figures.states = kinds.dropLast.length ∧
    figures.validations = kinds.count .validatingData ∧
    figures.templates = kinds.count .loadingTemplate := by
  subst told passed ahead
  cases mode <;> exact ⟨rfl, rfl, rfl⟩

theorem Reaches.admitted {mode : Mode} {m m' : Machine} {kinds : List RunEvent.Kind}
    (h : Reaches mode m kinds m') : Mode.Admitted (mode.rest m.state.kind) kinds := by
  cases h with
  | onCourse steps ahead sent passed closed =>
    exact .inl ⟨(mode.rest m'.state.kind).map (·.1), by rw [sent, ahead, List.map_append]⟩
  | failing steps left ahead unfinished sent passed ended =>
    refine .inr ⟨steps.map (·.1), sent, ⟨left.map (·.1), by rw [ahead, List.map_append]⟩, ?_⟩
    intro whole
    rw [ahead, List.map_append] at whole
    exact unfinished (by simpa using whole)

theorem Reaches.history {mode : Mode} {m : Machine} {kinds : List RunEvent.Kind}
    (h : Reaches mode {} kinds m) : m.history.map RunState.kind = mode.passed kinds := by
  cases h with
  | onCourse steps ahead sent passed closed =>
    rw [rest_new mode] at ahead
    rw [sent, Mode.passed_course ahead, passed]
    rfl
  | failing steps left ahead unfinished sent passed ended =>
    rw [rest_new mode] at ahead
    rw [sent, Mode.passed_fail mode ahead, passed]
    rfl

theorem Reaches.figures {mode : Mode} {m : Machine} {kinds : List RunEvent.Kind}
    (h : Reaches mode {} kinds m) {output : Cargo} {figures : RunTally}
    (done : m.state = .completed output figures) :
    figures.states = m.history.dropLast.length ∧
    figures.validations = (m.history.map RunState.kind).count .validatingData ∧
    figures.templates = (m.history.map RunState.kind).count .loadingTemplate := by
  cases h with
  | onCourse steps ahead sent passed closed =>
    have nothing : mode.rest m.state.kind = [] := by
      rw [done]
      exact Mode.rest_of_step?_none rfl
    rw [rest_new mode, nothing, List.append_nil] at ahead
    obtain ⟨memory, told⟩ := closed output figures done
    rw [← List.length_map (f := RunState.kind)] at told
    rw [← List.length_map (f := RunState.kind), List.map_dropLast]
    exact figures_of_course ahead passed told
  | failing steps left ahead unfinished sent passed ended =>
    rw [done] at ended
    cases ended

/-- A new machine accepts a list of events exactly if it runs along the course of
the mode that is asked for, and if memory can be told where it is to be closed. -/
theorem follow_course {mode : Mode} {es : List RunEvent} (g : Gauges)
    (asked : ∀ config, es.head? = some (.begin config) → config.mode = .ok mode) :
    ((∃ r, Machine.follow {} g es = .ok r) ↔ Mode.Admitted mode.course (es.map RunEvent.kind) ∧
      (.complete ∈ es.map RunEvent.kind → g.Readable)) ∧
    ∀ m after, Machine.follow {} g es = .ok (m, after) →
      m.history.map RunState.kind = mode.passed (es.map RunEvent.kind) ∧
      ∀ output figures, m.state = .completed output figures →
        figures.states = m.history.dropLast.length ∧
        figures.validations = (m.history.map RunState.kind).count .validatingData ∧
        figures.templates = (m.history.map RunState.kind).count .loadingTemplate := by
  have reaches : ∀ m after, Machine.follow {} g es = .ok (m, after) →
      Reaches mode {} (es.map RunEvent.kind) m := fun m after whole =>
    reaches_of_follow (runsIn_new mode) (by intro _ _ ended; cases ended) (fun _ => asked) whole
  rw [← rest_new mode]
  refine ⟨⟨?_, ?_⟩, ?_⟩
  · rintro ⟨⟨m, after⟩, whole⟩
    exact ⟨(reaches m after whole).admitted, readable_of_follow whole⟩
  · rintro ⟨admitted, readable⟩
    exact follow_of_admitted (runsIn_new mode) (fun _ => asked) readable admitted
  · intro m after whole
    exact ⟨(reaches m after whole).history, fun _ _ done => (reaches m after whole).figures done⟩

/-- A run in template mode, sent to its end. -/
def templateRun : List RunEvent :=
  [.begin (.value (.map [(.str "mode", .str "Template_Only")])),
    .loadSchema (.value (.str "s.json")), .schemaLoadComplete (.value (.map [])),
    .parseFrontmatter (.value (.str "---")), .frontmatterParseComplete (.value (.map [])),
    .validateData, .loadTemplate (.value (.str "t.md")), .templateLoadComplete (.value (.str "")),
    .generateOutput, .outputGenerationComplete (.value (.str "done")), .complete]

theorem eq_ok_of_toOption {α : Type} {r : Outcome α} {a : α} (h : r.toOption = some a) :
    r = .ok a := by
  cases r <;> cases h
  rfl

theorem still_readable : Gauges.still.Readable := by
  have answered : Gauges.still.megabytes.isOk = true := by decide +kernel
  cases told : Gauges.still.megabytes with
  | ok memory => exact ⟨memory, told⟩
  | error f =>
    rw [told] at answered
    cases answered

theorem follow_templateRun : ∃ m after, Machine.follow {} .still templateRun = .ok (m, after) ∧
    m.history.map RunState.kind = Mode.templateOnly.states := by
  have asked : ∀ config, templateRun.head? = some (.begin config) →
      config.mode = .ok .templateOnly := by
    intro config first
    cases first
    exact eq_ok_of_toOption (by decide +kernel)
  have course := follow_course .still asked
  obtain ⟨⟨m, after⟩, whole⟩ := course.1.mpr ⟨.inl ⟨[], rfl⟩, fun _ => still_readable⟩
  exact ⟨m, after, whole, (course.2 m after whole).1⟩

end Machine
end Quire
