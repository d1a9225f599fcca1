import Quire.Proofs.Machine.Step

/-! Events, accepted or not, and resets, sent to a machine in any order. However
long that goes on, the state, the history and the log tell the same story, and
each move adds one state, starts anew or changes nothing. -/

namespace Quire

/-- What can be done to a machine. -/
inductive Move
  | event (e : RunEvent)
  | reset

/-- A machine at its gauges, and the events that it has accepted since it was
new or last reset. -/
structure Operation where
  machine : Machine := {}
  gauges : Gauges
  accepted : List RunEvent := []

namespace Operation

def move (o : Operation) : Move → Operation
  | .reset => { o with machine := o.machine.reset, accepted := [] }
  | .event e =>
    let t := o.machine.transition e o.gauges
    { machine := t.2.1
      gauges := t.2.2
      accepted := if t.1.isOk then o.accepted ++ [e] else o.accepted }

def run (g : Gauges) (moves : List Move) : Operation := moves.foldl move { gauges := g }

/-- What holds of a new machine and is kept by every move holds after every run. -/
theorem run_induction {P : Operation → Prop} (start : ∀ g, P { gauges := g })
    (step : ∀ o, P o → ∀ move, P (o.move move)) (g : Gauges) (moves : List Move) :
    P (run g moves) := by
  have kept : ∀ o, P o → P (moves.foldl move o) := by
    induction moves with
    | nil => exact fun o h => h
    | cons move rest ih => exact fun o h => ih _ (step o h move)
  exact kept _ (start g)

theorem move_accepted {o : Operation} {e : RunEvent} {s : RunState}
    (h : (o.machine.transition e o.gauges).1 = .ok s) :
    (o.move (.event e)).accepted = o.accepted ++ [e] := by
  simp [move, h, Except.isOk, Except.toBool]

theorem move_refused {o : Operation} {e : RunEvent} {f : Failure}
    (h : (o.machine.transition e o.gauges).1 = .error f) :
    (o.move (.event e)).accepted = o.accepted := by
  simp [move, h, Except.isOk, Except.toBool]

end Operation

namespace RunState

theorem Leads.failed {s p : RunState} {e : RunEvent} {error : RunError} {states : Nat}
    {g : Gauges} (h : Leads states g s e (.failed error p)) : p = s ∧ e = .fail error := by
  cases h
  exact ⟨rfl, rfl⟩

end RunState

namespace Machine

/-- The history begins in the first state and ends in the present one; the log
names each state of it and the next; only the last one can be an end, and a
failed one holds the one before it. -/
structure Consistent (m : Machine) : Prop where
  first : m.history.head? = some .idle
  last : m.history.getLast? = some m.state
  length : m.history.length = m.log.length + 1
  recorded : ∀ (i : Nat) (r : Step), m.log[i]? = some r →
    m.history[i]?.map RunState.kind = some r.source ∧
    m.history[i + 1]?.map RunState.kind = some r.target
  going : ∀ s ∈ m.history.dropLast, s.isTerminal = false
  previous : ∀ error p, m.state = .failed error p → m.history[m.history.length - 2]? = some p

theorem consistent_new : Consistent {} where
  first := rfl
  last := rfl
  length := rfl
  recorded := by simp
  going := by simp
  previous := by simp

theorem Consistent.last_getElem {m : Machine} (h : m.Consistent) :
    m.history[m.log.length]? = some m.state := by
  have last := h.last
  rwa [List.getLast?_eq_getElem?, h.length, Nat.add_sub_cancel] at last

theorem Consistent.push {m : Machine} (h : m.Consistent) {e : RunEvent} {s : RunState}
    {states : Nat} {g : Gauges} (step : m.state.Leads states g e s) :
    (m.push e s).Consistent where
  first := by simp [Machine.push, List.head?_append, h.first]
  last := by simp [Machine.push]
  length := by simp [Machine.push, h.length]
  recorded i r found := by
    have lengths := h.length
    rcases Nat.lt_trichotomy i m.log.length with before | here | after
    · have kept : m.log[i]? = some r := by
        rwa [Machine.push, List.getElem?_append_left before] at found
      have old := h.recorded i r kept
      rw [Machine.push, List.getElem?_append_left (by omega), List.getElem?_append_left (by omega)]
      exact old
    · subst here
      have added : r = ⟨m.state.kind, e.kind, s.kind⟩ := by
        simpa [Machine.push, eq_comm] using found
      subst added
      have old := h.last_getElem
      rw [Machine.push, List.getElem?_append_left (by omega), old, ← lengths]
      simp
    · have bound := (List.getElem?_eq_some_iff.mp found).1
      simp only [Machine.push, List.length_append, List.length_singleton] at bound
      omega
  going t member := by
    obtain ⟨before, whole⟩ := List.getLast?_eq_some_iff.mp h.last
    rw [Machine.push, List.dropLast_concat, whole, List.mem_append, List.mem_singleton] at member
    rcases member with earlier | rfl
    · exact h.going t (by rwa [whole, List.dropLast_concat])
    · exact step.going
  previous error p failed := by
    have failed : s = .failed error p := failed
    subst failed
    have before := h.last_getElem
    have lengths := h.length
    rw [step.failed.1, Machine.push, List.length_append, List.length_singleton,
      List.getElem?_append_left (by omega), ← before]
    congr 1
    omega

theorem Consistent.transition {m : Machine} (h : m.Consistent) (e : RunEvent) (g : Gauges) :
    (m.transition e g).2.1.Consistent := by
  rcases m.transition_cases e g with ⟨s, _, once, step⟩ | ⟨f, _, once, _⟩
  · rw [once]
    exact h.push step
  · rwa [once]

theorem isComplete_iff {m : Machine} (h : m.Consistent) : m.isComplete = true ↔
    ∃ s, m.history.getLast? = some s ∧ (s.kind = .completed ∨ s.kind = .failed) := by
  simp [h.last, isComplete, RunState.isTerminal_iff]

/-- The three things that a move does to a machine. -/
inductive Turns (g : Gauges) (m : Machine) : Move → Machine → Prop
  | onward {e : RunEvent} {s : RunState} (accepted : (m.transition e g).1 = .ok s) :
    Turns g m (.event e)
      ⟨s, m.history ++ [s], m.log ++ [⟨m.state.kind, e.kind, s.kind⟩]⟩
  | anew : Turns g m .reset ⟨.idle, [.idle], []⟩
  | unmoved {e : RunEvent} {f : Failure} (raised : (m.transition e g).1 = .error f)
      (reason : RunState.Refuses g m.state e f) : Turns g m (.event e) m

theorem turns (o : Operation) (move : Move) :
    o.machine.Turns o.gauges move (o.move move).machine := by
  cases move with
  | reset => exact .anew
  | event e =>
    change o.machine.Turns o.gauges (.event e) (o.machine.transition e o.gauges).2.1
    rcases o.machine.transition_cases e o.gauges with ⟨s, _, once, _⟩ | ⟨f, _, once, reason⟩
    · rw [once]
      exact .onward (congrArg Prod.fst once)
    · rw [once]
      exact .unmoved (congrArg Prod.fst once) reason

end Machine

namespace Operation

theorem run_consistent (g : Gauges) (moves : List Move) : (run g moves).machine.Consistent := by
  refine run_induction (P := fun o => o.machine.Consistent)
    (fun _ => Machine.consistent_new) ?_ g moves
  intro o h move
  cases move with
  | reset => exact Machine.consistent_new
  | event e => exact h.transition e o.gauges

/-- Whatever a machine has been through, its parts agree, it is complete at the
ends and nowhere else, and the next move is one of the three. -/
theorem run_accounts (g : Gauges) (moves : List Move) :
    (run g moves).machine.Consistent ∧
    (run g moves).machine.isComplete = !(run g moves).machine.canProceed ∧
    ((run g moves).machine.isComplete = true ↔
      ∃ s, (run g moves).machine.history.getLast? = some s ∧
        (s.kind = .completed ∨ s.kind = .failed)) ∧
    ∀ move, (run g moves).machine.Turns (run g moves).gauges move
      (run g (moves ++ [move])).machine := by
  have consistent := run_consistent g moves
  refine ⟨consistent, ?_, Machine.isComplete_iff consistent, fun move => ?_⟩
  · simp [Machine.canProceed]
  · have step : run g (moves ++ [move]) = (run g moves).move move := by
      simp [run, List.foldl_append]
    rw [step]
    exact Machine.turns (run g moves) move

end Operation
end Quire
