import Quire.Pipeline.Machine

/-! What one event does to a machine. `Leads` lists the events that are accepted,
state by state, and `Refuses` the reasons for turning one away; the machine
steps and refuses exactly so, and a refusal leaves it as it was. -/

namespace Quire

/-- What the next reading of memory comes to in megabytes. -/
def Gauges.megabytes (g : Gauges) : Outcome Binary64 :=
  g.readMemory.1.bind RunState.megabytes

namespace RunState

/-- The closing figures of a run in a mode. -/
def tally (mode : Mode) (states : Nat) (memory : Binary64) : RunTally where
  states := states
  memory := memory
  validations := if mode = .templateOnly then 0 else 1
  templates := if mode = .validationOnly then 0 else 1

/-- The steps of a run after a number of states, before the gauges are read. -/
inductive Leads (states : Nat) (g : Gauges) : RunState → RunEvent → RunState → Prop
  | fail {s : RunState} (error : RunError) (going : s.isTerminal = false) :
    Leads states g s (.fail error) (.failed error s)
  | begin (config : Cargo) : Leads states g .idle (.begin config) (.initializing config)
  | loadSchema (config path : Cargo) :
    Leads states g (.initializing config) (.loadSchema path) (.loadingSchema config path)
  | schemaLoadComplete (config path schema : Cargo) :
    Leads states g (.loadingSchema config path) (.schemaLoadComplete schema)
      (.schemaLoaded config schema)
  | parseFrontmatter (config schema content : Cargo) :
    Leads states g (.schemaLoaded config schema) (.parseFrontmatter content)
      (.parsingFrontmatter config schema content)
  | frontmatterParseComplete (config schema content data : Cargo) :
    Leads states g (.parsingFrontmatter config schema content) (.frontmatterParseComplete data)
      (.frontmatterParsed config schema data)
  | passOver (config schema data : Cargo) (asked : config.mode = .ok .templateOnly) :
    Leads states g (.frontmatterParsed config schema data) .validateData
      (.dataValidated config schema data)
  | validateData (config schema data : Cargo) (mode : Mode) (asked : config.mode = .ok mode)
      (checks : mode ≠ .templateOnly) :
    Leads states g (.frontmatterParsed config schema data) .validateData
      (.validatingData config schema data)
  | validationComplete (config schema data checked : Cargo) :
    Leads states g (.validatingData config schema data) (.validationComplete checked)
      (.dataValidated config schema checked)
  | stopShort (config schema data path : Cargo) (asked : config.mode = .ok .validationOnly) :
    Leads states g (.dataValidated config schema data) (.loadTemplate path)
      (.outputGenerated config (.value (.str validationOutput)))
  | loadTemplate (config schema data path : Cargo) (mode : Mode) (asked : config.mode = .ok mode)
      (renders : mode ≠ .validationOnly) :
    Leads states g (.dataValidated config schema data) (.loadTemplate path)
      (.loadingTemplate config schema data path)
  | templateLoadComplete (config schema data path template : Cargo) :
    Leads states g (.loadingTemplate config schema data path) (.templateLoadComplete template)
      (.templateLoaded config schema data template)
  | generateOutput (config schema data template : Cargo) :
    Leads states g (.templateLoaded config schema data template) .generateOutput
      (.generatingOutput config schema data template)
  | outputGenerationComplete (config schema data template output : Cargo) :
    Leads states g (.generatingOutput config schema data template)
      (.outputGenerationComplete output) (.outputGenerated config output)
  | complete (config output : Cargo) (mode : Mode) (memory : Binary64)
      (asked : config.mode = .ok mode) (read : g.megabytes = .ok memory) :
    Leads states g (.outputGenerated config output) .complete
      (.completed output (tally mode states memory))

/-- Why an event is turned away: another one is waited for, the settings have no
mode, or memory cannot be told. -/
inductive Refuses (g : Gauges) : RunState → RunEvent → Failure → Prop
  | unexpected {s : RunState} {e : RunEvent} (other : e.name ≠ s.expected) :
    Refuses g s e (.fault (Fault.rejected s.name s.expected e.name))
  | badMode {s : RunState} {e : RunEvent} {config : Cargo} {f : Failure}
      (awaited : e.name = s.expected) (carried : ("config", config) ∈ s.cargo)
      (bad : config.mode = .error f) : Refuses g s e f
  | noMemory {config output : Cargo} {f : Failure} (bad : g.megabytes = .error f) :
    Refuses g (.outputGenerated config output) .complete f

theorem isTerminal_iff (s : RunState) :
    s.isTerminal = true ↔ s.kind = .completed ∨ s.kind = .failed := by
  cases s <;> simp [isTerminal, kind]

theorem isTerminal_eq_false {s : RunState}
    (incomplete : ∀ output tally, s = .completed output tally → False)
    (unfailed : ∀ error previous, s = .failed error previous → False) : s.isTerminal = false := by
  cases s with
  | completed output tally => exact (incomplete output tally rfl).elim
  | failed error previous => exact (unfailed error previous rfl).elim
  | _ => rfl

theorem next_fail {s : RunState} (going : s.isTerminal = false) (error : RunError) (states : Nat)
    (g : Gauges) : s.next (.fail error) states g = (.ok (.failed error s), g) := by
  cases s with
  | completed output tally => cases going
  | failed error previous => cases going
  | _ => rfl

theorem Leads.going {s t : RunState} {e : RunEvent} {states : Nat} {g : Gauges}
    (h : Leads states g s e t) : s.isTerminal = false := by
  cases h with
  | fail error going => exact going
  | _ => rfl

theorem afterParsing_ok (config schema data : Cargo) (s : RunState) :
    afterParsing config schema data = .ok s ↔ ∃ mode, config.mode = .ok mode ∧
      s = if mode = .templateOnly then .dataValidated config schema data
        else .validatingData config schema data := by
  cases h : config.mode <;> simp [afterParsing, h, bind, Except.bind, pure, Except.pure, eq_comm]

theorem afterParsing_error (config schema data : Cargo) (f : Failure) :
    afterParsing config schema data = .error f ↔ config.mode = .error f := by
  cases h : config.mode <;> simp [afterParsing, h, bind, Except.bind, pure, Except.pure]

theorem afterValidation_ok (config schema data path : Cargo) (s : RunState) :
    afterValidation config schema data path = .ok s ↔ ∃ mode, config.mode = .ok mode ∧
      s = if mode = .validationOnly then .outputGenerated config (.value (.str validationOutput))
        else .loadingTemplate config schema data path := by
  cases h : config.mode <;> simp [afterValidation, h, bind, Except.bind, pure, Except.pure, eq_comm]

theorem afterValidation_error (config schema data path : Cargo) (f : Failure) :
    afterValidation config schema data path = .error f ↔ config.mode = .error f := by
  cases h : config.mode <;> simp [afterValidation, h, bind, Except.bind, pure, Except.pure]

theorem close_eq (config output : Cargo) (states : Nat) (g : Gauges) :
    (close config output states g).1 = config.mode.bind fun mode =>
      g.megabytes.map fun memory => .completed output (tally mode states memory) := by
  cases h : config.mode with
  | error f => simp [close, h, Except.bind]
  | ok mode =>
    simp only [close, h, Except.bind, Gauges.megabytes]
    cases hr : g.readMemory.1 with
    | error f => simp [bind, Except.bind, Except.map]
    | ok v =>
      cases hm : megabytes v <;>
        simp [hm, bind, Except.bind, Except.map, pure, Except.pure, tally]

theorem leads_of_next {s t : RunState} {e : RunEvent} {states : Nat} {g : Gauges}
    (h : (s.next e states g).1 = .ok t) : Leads states g s e t := by
  fun_cases RunState.next s e states g
  case case1 => cases h
  case case2 => cases h
  case case3 error h1 h2 =>
    have going := isTerminal_eq_false h1 h2
    rw [next_fail going] at h
    cases h
    exact .fail error going
  case case4 => cases h; constructor
  case case5 => cases h; constructor
  case case6 => cases h; constructor
  case case7 => cases h; constructor
  case case8 => cases h; constructor
  case case9 config schema data =>
    obtain ⟨mode, asked, rfl⟩ := (afterParsing_ok config schema data t).mp h
    split
    · subst mode
      exact .passOver config schema data asked
    · exact .validateData config schema data mode asked ‹_›
  case case10 => cases h; constructor
  case case11 config schema data path =>
    obtain ⟨mode, asked, rfl⟩ := (afterValidation_ok config schema data path t).mp h
    split
    · subst mode
      exact .stopShort config schema data path asked
    · exact .loadTemplate config schema data path mode asked ‹_›
  case case12 => cases h; constructor
  case case13 => cases h; constructor
  case case14 => cases h; constructor
  case case15 config output =>
    change (close config output states g).1 = .ok t at h
    rw [close_eq] at h
    cases asked : config.mode with
    | error f => simp [asked, Except.bind] at h
    | ok mode =>
      cases read : g.megabytes with
      | error f => simp [asked, read, Except.bind, Except.map] at h
      | ok memory =>
        simp only [asked, read, Except.bind, Except.map, Except.ok.injEq] at h
        subst t
        exact .complete config output mode memory asked read
  case case16 => simp_all [next, reject]

theorem next_of_leads {s t : RunState} {e : RunEvent} {states : Nat} {g : Gauges}
    (h : Leads states g s e t) : (s.next e states g).1 = .ok t := by
  cases h with
  | fail error going => rw [next_fail going]
  | passOver config schema data asked =>
    exact (afterParsing_ok config schema data _).mpr ⟨_, asked, rfl⟩
  | validateData config schema data mode asked checks =>
    exact (afterParsing_ok config schema data _).mpr ⟨mode, asked, (if_neg checks).symm⟩
  | stopShort config schema data path asked =>
    exact (afterValidation_ok config schema data path _).mpr ⟨_, asked, rfl⟩
  | loadTemplate config schema data path mode asked renders =>
    exact (afterValidation_ok config schema data path _).mpr ⟨mode, asked, (if_neg renders).symm⟩
  | complete config output mode memory asked read =>
    change (close config output states g).1 = _
    rw [close_eq, asked, read]
    rfl
  | _ => rfl

theorem refuses_of_next {s : RunState} {e : RunEvent} {states : Nat} {g : Gauges} {f : Failure}
    (h : (s.next e states g).1 = .error f) : Refuses g s e f := by
  fun_cases RunState.next s e states g
  case case1 =>
    cases h
    refine .unexpected ?_
    cases e <;> simp [RunEvent.name, RunEvent.kind, RunEvent.Kind.name, expected]
  case case2 =>
    cases h
    refine .unexpected ?_
    cases e <;> simp [RunEvent.name, RunEvent.kind, RunEvent.Kind.name, expected]
  case case3 error h1 h2 =>
    have going := isTerminal_eq_false h1 h2
    rw [next_fail going] at h
    cases h
  case case9 config schema data =>
    have bad := (afterParsing_error config schema data f).mp h
    exact .badMode rfl (by simp [cargo]) bad
  case case11 config schema data path =>
    have bad := (afterValidation_error config schema data path f).mp h
    exact .badMode rfl (by simp [cargo]) bad
  case case15 config output =>
    change (close config output states g).1 = .error f at h
    rw [close_eq] at h
    cases asked : config.mode with
    | error f' =>
      simp only [asked, Except.bind, Except.error.injEq] at h
      subst f'
      exact .badMode rfl (by simp [cargo]) asked
    | ok mode =>
      cases read : g.megabytes with
      | error f' =>
        simp only [asked, read, Except.bind, Except.map, Except.error.injEq] at h
        subst f'
        exact .noMemory read
      | ok memory => simp [asked, read, Except.bind, Except.map] at h
  case case16 =>
    have other : e.name ≠ s.expected := by
      clear h
      cases s <;> cases e <;> simp [RunEvent.name, RunEvent.kind, RunEvent.Kind.name, expected]
      all_goals solve_by_elim
    have rejected : f = .fault (Fault.rejected s.name s.expected e.name) := by
      simp_all [next, reject]
    rw [rejected]
    exact .unexpected other
  all_goals cases h

/-- Gauges are read by the last step of a run and by no other. -/
theorem next_still {s : RunState} {e : RunEvent} (h : e ≠ .complete) (states : Nat)
    (g g' : Gauges) : s.next e states g' = ((s.next e states g).1, g') := by
  fun_cases RunState.next s e states g
  case case3 error h1 h2 =>
    have going := isTerminal_eq_false h1 h2
    simp only [next_fail going]
  case case15 => exact absurd rfl h
  case case16 => simp_all [next]
  all_goals rfl

end RunState

namespace Machine

/-- All that an event can do: it takes the machine one state further, or it is
turned away and the machine stays what it was. -/
theorem transition_cases (m : Machine) (e : RunEvent) (g : Gauges) :
    (∃ s after, m.transition e g = (.ok s, m.push e s, after) ∧
      m.state.Leads m.history.length g e s) ∨
    (∃ f after, m.transition e g = (.error f, m, after) ∧ RunState.Refuses g m.state e f) := by
  unfold transition
  rcases h : m.state.next e m.history.length g with ⟨f | s, after⟩
  · exact .inr ⟨f, after, rfl, RunState.refuses_of_next (by rw [h])⟩
  · exact .inl ⟨s, after, rfl, RunState.leads_of_next (by rw [h])⟩

theorem transition_ok {m : Machine} {e : RunEvent} {s : RunState} {g : Gauges}
    (h : m.state.Leads m.history.length g e s) :
    ∃ after, m.transition e g = (.ok s, m.push e s, after) := by
  have next := RunState.next_of_leads h
  unfold transition
  generalize m.state.next e m.history.length g = r at next ⊢
  obtain ⟨f | t, after⟩ := r
  · cases next
  · cases next
    exact ⟨after, rfl⟩

theorem transition_still {e : RunEvent} (h : e ≠ .complete) (m : Machine) (g : Gauges) :
    (m.transition e g).2.2 = g := by
  unfold transition
  rw [RunState.next_still h _ g g]
  cases (m.state.next e m.history.length g).1 <;> rfl

end Machine
end Quire
