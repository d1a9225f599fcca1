import Quire.Proofs.Machine.Reached
import Quire.Proofs.Work

/-! What work does to the machine of its session. Most of it leaves the machine
alone; events take it on. `Pursues` is what the phases of a run have in common:
from a run that is under way they lead to a machine of a certain kind, or fail and
leave the run under way. -/

namespace Quire

/-- A run that has not come to its end. -/
structure Machine.Underway (m : Machine) : Prop where
  reached : m.Reached
  going : m.isComplete = false

/-- A run that has been through all its states. -/
structure Machine.Done (m : Machine) : Prop where
  reached : m.Reached
  completed : m.state.kind = .completed

theorem Machine.Underway.reset (m : Machine) : m.reset.Underway := ⟨.reset m, rfl⟩

theorem Machine.Underway.fail {m : Machine} (h : m.Underway) (error : RunError) :
    (m.push (.fail error) (.failed error m.state)).Reached := by
  obtain ⟨after, once⟩ := Machine.transition_ok (g := .still) (.fail error h.going)
  have reached := h.reached.event (.fail error) .still
  rwa [once] at reached

theorem RunState.Leads.going_after {s t : RunState} {e : RunEvent} {states : Nat} {g : Gauges}
    (h : Leads states g s e t) (proper : e.kind ≠ .fail) (open' : e ≠ .complete) :
    t.isTerminal = false := by
  cases h with
  | fail error going => exact absurd rfl proper
  | complete => exact absurd rfl open'
  | _ => rfl

namespace Work

variable {α β : Type}

/-- Work that leaves the machine as it is. -/
def Spares (x : Work α) : Prop := ∀ s, (x.run s).2.pipeline.machine = s.pipeline.machine

/-- Work from a run under way to a machine with `Q`; where it fails the run still is
under way. -/
def Pursues (x : Work α) (Q : Machine → Prop) : Prop :=
  ∀ s, s.pipeline.machine.Underway →
    (∀ a, (x.run s).1 = .ok a → Q (x.run s).2.pipeline.machine) ∧
    ∀ e, (x.run s).1 = .error e → (x.run s).2.pipeline.machine.Underway

theorem run_bind_snd (x : Work α) (f : α → Work β) (s : Session) : ((x >>= f).run s).2 =
    match (x.run s).1 with
    | .ok a => ((f a).run (x.run s).2).2
    | .error _ => (x.run s).2 := by
  change (ExceptT.bindCont f (x.run s).1 (x.run s).2).2 = _
  rcases x.run s with ⟨_ | a, t⟩ <;> rfl

theorem Spares.bind {x : Work α} {f : α → Work β} (hx : Spares x) (hf : ∀ a, Spares (f a)) :
    Spares (x >>= f) := by
  intro s
  rw [run_bind_snd]
  cases (x.run s).1 with
  | ok a => exact (hf a _).trans (hx s)
  | error e => exact hx s

theorem spares_pure (a : α) : Spares (pure a : Work α) := fun _ => rfl

theorem spares_get : Spares (get : Work Session) := fun _ => rfl

theorem spares_ofOutcome (r : Outcome α) : Spares (ofOutcome r) := fun _ => rfl

theorem spares_say (c : Channel) (severity : Severity) (text : String) :
    Spares (say c severity text) := fun _ => rfl

theorem spares_tryOut (c : Channel) (a : Attempt α) : Spares (tryOut c a) := fun _ => rfl

theorem spares_gauged (use : Gauges → Outcome α × Gauges) : Spares (gauged use) := fun _ => rfl

theorem spares_traced (use : Gauges → Trace Gauges α) : Spares (traced use) := fun _ => rfl

theorem spares_modify {change : Session → Session}
    (same : ∀ s, (change s).pipeline.machine = s.pipeline.machine) :
    Spares (modify change : Work Unit) := same

theorem spares_onPipeline {change : Pipeline → Pipeline}
    (same : ∀ p, (change p).machine = p.machine) : Spares (onPipeline change) := fun _ => same _

theorem Spares.pursues {x : Work α} (h : Spares x) : Pursues x Machine.Underway := by
  intro s underway
  rw [h s]
  exact ⟨fun _ _ => underway, fun _ _ => underway⟩

theorem Pursues.bind {x : Work α} {f : α → Work β} {Q : Machine → Prop}
    (hx : Pursues x Machine.Underway) (hf : ∀ a, Pursues (f a) Q) : Pursues (x >>= f) Q := by
  intro s underway
  obtain ⟨onward, stopped⟩ := hx s underway
  rw [run_bind, run_bind_snd]
  cases came : (x.run s).1 with
  | ok a => exact hf a _ (onward a came)
  | error e =>
    refine ⟨fun b impossible => ?_, fun e' _ => stopped e came⟩
    cases impossible

theorem Pursues.quietly {x : Work α} (h : Pursues x Machine.Underway) :
    Pursues (discard x) Machine.Underway := h.bind fun _ => (spares_pure ()).pursues

theorem pursues_resetMachine : Pursues resetMachine Machine.Underway :=
  fun s _ => ⟨fun _ _ => .reset s.pipeline.machine, fun _ _ => .reset s.pipeline.machine⟩

/-- A session with more notes in its journal. -/
def noted (c : Channel) (notes : List Note) (s : Session) : Session :=
  { s with journal := s.journal ++ c.entries notes }

theorem run_note (c : Channel) (notes : List Note) (f : Unit → Work β) (s : Session) :
    (tryOut c ⟨notes, .ok ()⟩ >>= f).run s = (f ()).run (noted c notes s) := rfl

theorem run_get (f : Session → Work β) (s : Session) : (get >>= f).run s = (f s).run s := rfl

/-- The machine takes an event as it does by itself. -/
theorem transition_run (e : RunEvent) (s : Session) :
    ((transition e).run s).1 = (s.pipeline.machine.transition e s.gauges).1 ∧
    ((transition e).run s).2.pipeline.machine =
      (s.pipeline.machine.transition e s.gauges).2.1 := by
  unfold transition
  rw [run_get]
  rcases s.pipeline.machine.transition e s.gauges with ⟨f | t, m, g⟩ <;> exact ⟨rfl, rfl⟩

theorem run_send {e : RunEvent} {s : Session} {t : RunState} {m : Machine} {after : Gauges}
    (once : s.pipeline.machine.transition e s.gauges = (.ok t, m, after)) :
    ((discard (transition e)).run s).1 = .ok () ∧
    ((discard (transition e)).run s).2.pipeline.machine = m := by
  obtain ⟨result, machine⟩ := transition_run e s
  rw [once] at result machine
  have quiet : discard (transition e) = transition e >>= fun _ => Pure.pure () := rfl
  rw [quiet, run_bind, run_bind_snd, result]
  exact ⟨rfl, machine⟩

/-- An event inside a run, accepted or not, does not end it. -/
theorem pursues_transition (e : RunEvent) (proper : e.kind ≠ .fail) (inside : e ≠ .complete) :
    Pursues (transition e) Machine.Underway := by
  intro s underway
  have reached := underway.reached.event e s.gauges
  rw [(transition_run e s).2]
  rcases s.pipeline.machine.transition_cases e s.gauges with
    ⟨t, after, once, step⟩ | ⟨f, after, once, _⟩
  · rw [once] at reached ⊢
    have still : Machine.Underway _ := ⟨reached, step.going_after proper inside⟩
    exact ⟨fun _ _ => still, fun _ _ => still⟩
  · rw [once]
    exact ⟨fun _ _ => underway, fun _ _ => underway⟩

theorem pursues_send (e : RunEvent) (proper : e.kind ≠ .fail) (inside : e ≠ .complete) :
    Pursues (discard (transition e)) Machine.Underway :=
  (pursues_transition e proper inside).quietly

/-- The last event of a run ends it, unless it is turned away. -/
theorem pursues_complete : Pursues (transition .complete) Machine.Done := by
  intro s underway
  have reached := underway.reached.event .complete s.gauges
  rw [(transition_run .complete s).1, (transition_run .complete s).2]
  rcases s.pipeline.machine.transition_cases .complete s.gauges with
    ⟨t, after, once, step⟩ | ⟨f, after, once, _⟩
  · rw [once] at reached ⊢
    exact ⟨fun _ _ => ⟨reached, step.of_complete.2⟩, nofun⟩
  · rw [once]
    exact ⟨nofun, fun _ _ => underway⟩

end Work
end Quire
