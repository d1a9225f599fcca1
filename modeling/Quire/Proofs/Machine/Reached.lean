import Quire.Proofs.Machine.Course

/-! Where a machine can be after any events and resets. Whatever settings it was
given, and whichever gauges were read, it stands on the course of some mode, or it
has left such a course by a failure. -/

namespace Quire

namespace Mode

end Mode

namespace RunState

theorem Leads.kind_ne_failed {s t : RunState} {e : RunEvent} {states : Nat} {g : Gauges}
    (h : Leads states g s e t) : s.kind ≠ .failed := by
  intro ended
  have terminal := (isTerminal_iff s).mpr (.inr ended)
  rw [h.going] at terminal
  cases terminal

end RunState

namespace Machine

/-- A machine made by events, each sent at gauges of its own and accepted or not. -/
inductive Reached : Machine → Prop
  | new : Reached {}
  | event {m : Machine} (e : RunEvent) (g : Gauges) (before : Reached m) :
    Reached (m.transition e g).2.1

theorem Reached.reset (m : Machine) : m.reset.Reached := .new

/-- A machine on the course of a mode that its settings do not speak against. -/
structure OnCourse (mode : Mode) (m : Machine) : Prop where
  met : m.state.kind ∈ mode.states
  passed : m.history.map RunState.kind ++ (mode.rest m.state.kind).map (·.2) = mode.states
  allowed : ∀ config other, m.state.config? = some config → config.mode = .ok other → other = mode

theorem onCourse_new (mode : Mode) : Machine.OnCourse mode {} where
  met := (runsIn_new mode).met
  passed := by cases mode <;> rfl
  allowed := by
    intro config other carried
    cases carried

theorem OnCourse.push {mode : Mode} {m : Machine} {e : RunEvent} {s : RunState} {g : Gauges}
    (h : m.OnCourse mode) (step : m.state.Leads m.history.length g e s) (proper : e.kind ≠ .fail)
    (asked : ∀ config other, e = .begin config → config.mode = .ok other → other = mode) :
    (m.push e s).OnCourse mode := by
  obtain ⟨ahead, met⟩ := Mode.rest_of_step? h.met (step.awaited proper h.allowed)
  refine ⟨met, ?_, fun config other carried told => ?_⟩
  · have passed := h.passed
    rw [ahead] at passed
    simpa [Machine.push] using passed
  · rcases step.config? carried with kept | begun
    · exact h.allowed config other kept told
    · exact asked config other begun told

/-- Before it has begun a machine is on every course. -/
theorem OnCourse.idle {mode : Mode} {m : Machine} (h : m.OnCourse mode) (idle : m.state = .idle)
    (other : Mode) : m.OnCourse other := by
  have passed := h.passed
  rw [idle] at passed
  have begun : m.history.map RunState.kind = [.idle] :=
    List.append_cancel_right (passed.trans (by cases mode <;> rfl))
  refine ⟨?_, ?_, ?_⟩
  · rw [idle]
    cases other <;> decide
  · rw [idle, begun]
    cases other <;> rfl
  · intro config mode' carried
    rw [idle] at carried
    cases carried

/-- One step further there is still a course to be on; where a run begins, it is the
one that the settings ask for. -/
theorem OnCourse.onward {mode : Mode} {m : Machine} {e : RunEvent} {s : RunState} {g : Gauges}
    (h : m.OnCourse mode) (step : m.state.Leads m.history.length g e s) (proper : e.kind ≠ .fail) :
    ∃ mode, (m.push e s).OnCourse mode := by
  by_cases begins : ∃ config, e = .begin config
  · obtain ⟨config, rfl⟩ := begins
    have asked : ∃ mode, ∀ other, config.mode = .ok other → other = mode := by
      cases told : config.mode with
      | ok mode => exact ⟨mode, fun other same => (Except.ok.inj same).symm⟩
      | error f => exact ⟨.full, fun other same => by cases same⟩
    obtain ⟨mode', asked⟩ := asked
    refine ⟨mode', (h.idle step.of_begin mode').push step proper ?_⟩
    intro config' other same told
    cases same
    exact asked other told
  · exact ⟨mode, h.push step proper fun config other same => (begins ⟨config, same⟩).elim⟩

/-- At the end of a course the history holds all of it. -/
theorem OnCourse.whole {mode : Mode} {m : Machine} (h : m.OnCourse mode)
    (done : m.state.kind = .completed) : m.history.map RunState.kind = mode.states := by
  have passed := h.passed
  rwa [done, Mode.rest_of_step?_none rfl, List.map_nil, List.append_nil] at passed

theorem Reached.onCourse {m : Machine} (h : m.Reached) (unfailed : m.state.kind ≠ .failed) :
    ∃ mode, m.OnCourse mode := by
  induction h with
  | new => exact ⟨.full, onCourse_new .full⟩
  | @event m e g before ih =>
    rcases m.transition_cases e g with ⟨s, after, once, step⟩ | ⟨f, after, once, _⟩
    · rw [once] at unfailed ⊢
      obtain ⟨mode, course⟩ := ih step.kind_ne_failed
      exact course.onward step fun failure => unfailed (step.of_fail failure)
    · rw [once] at unfailed ⊢
      exact ih unfailed

end Machine
end Quire
