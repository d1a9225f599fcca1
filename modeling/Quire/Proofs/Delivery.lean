import Mathlib.Data.List.Perm.Subperm
import Quire.Proofs.Pool

/-! A pool move by move: an item is sent off, or something in flight is waited for. The
moves come to an end, the window is never overrun on the way, and what was delivered at
the end is what a run of the pool delivers. -/

namespace Quire
namespace Pool

variable {ι ε ρ : Type}

/-- With one more item in flight. -/
def Flight.sent (f : Flight ι ε ρ) (item : ι) : Flight ι ε ρ :=
  { f with pending := f.pending ++ [item] }

@[simp] theorem Flight.length_sent (f : Flight ι ε ρ) (item : ι) :
    (f.sent item).pending.length = f.pending.length + 1 := by
  simp [sent]

/-- The items that have not been sent off yet, and those that have. -/
structure Stage (ι ε ρ : Type) where
  waiting : List ι
  flight : Flight ι ε ρ := {}

namespace Stage

section

variable (order : Finishing) (window : Nat) (failFast : Bool) (work : ι → Except ε ρ)

/-- An item is sent off while the window has room. When it is full, and when no item is
left to send, something in flight is waited for. An error that was raised ends it. -/
def next (s : Stage ι ε ρ) : Option (Stage ι ε ρ) :=
  if s.flight.delivery.raised.isSome then none
  else if s.flight.pending.length < window then
    match s.waiting with
    | item :: waiting => some ⟨waiting, s.flight.sent item⟩
    | [] =>
      if s.flight.pending.isEmpty then none
      else some ⟨[], s.flight.drain order failFast work⟩
  else some { s with flight := s.flight.drain order failFast work }

/-- So many moves, as far as there are any. -/
def moves : Nat → Stage ι ε ρ → Stage ι ε ρ
  | 0, s => s
  | n + 1, s =>
    match s.next order window failFast work with
    | none => s
    | some t => moves n t

end

/-- Each item is sent off once and lands once. -/
def remaining (s : Stage ι ε ρ) : Nat := 2 * s.waiting.length + s.flight.pending.length

variable {order : Finishing} {window : Nat} {failFast : Bool} {work : ι → Except ε ρ}

theorem next_cases {s t : Stage ι ε ρ} (step : s.next order window failFast work = some t) :
    (∃ item, s.waiting = item :: t.waiting ∧ s.flight.pending.length < window ∧
      t.flight = s.flight.sent item) ∨
    (t = { s with flight := s.flight.drain order failFast work } ∧
      (window ≤ s.flight.pending.length ∨ 0 < s.flight.pending.length)) := by
  unfold next at step
  split at step
  · cases step
  · split at step
    · next room =>
      split at step
      · next item waiting queue =>
        obtain rfl := Option.some.inj step
        exact .inl ⟨item, queue, room, rfl⟩
      · next queue =>
        split at step
        · cases step
        · next flying =>
          obtain rfl := Option.some.inj step
          rw [List.isEmpty_iff, ← List.length_eq_zero_iff] at flying
          exact .inr ⟨by rw [queue], .inr (by omega)⟩
    · next full =>
      obtain rfl := Option.some.inj step
      exact .inr ⟨rfl, .inl (by omega)⟩

theorem next_remaining (open' : 0 < window) {s t : Stage ι ε ρ}
    (step : s.next order window failFast work = some t) : t.remaining < s.remaining := by
  unfold remaining
  rcases next_cases step with ⟨item, queue, _, sent⟩ | ⟨rfl, flying⟩
  · rw [queue, sent, Flight.length_sent, List.length_cons]
    omega
  · have shorter := s.flight.drain_shorter order failFast work
    dsimp only
    omega

/-- The window is not overrun by a move. -/
theorem next_within {s t : Stage ι ε ρ} (step : s.next order window failFast work = some t)
    (within : s.flight.pending.length ≤ window) : t.flight.pending.length ≤ window := by
  rcases next_cases step with ⟨item, _, room, sent⟩ | ⟨rfl, _⟩
  · rw [sent, Flight.length_sent]
    omega
  · have shorter := s.flight.drain_shorter order failFast work
    dsimp only
    omega

theorem moves_within (n : Nat) {s : Stage ι ε ρ} (within : s.flight.pending.length ≤ window) :
    (moves order window failFast work n s).flight.pending.length ≤ window := by
  induction n generalizing s with
  | zero => exact within
  | succ n ih =>
    unfold moves
    split
    · exact within
    · next step => exact ih (next_within step within)

theorem next_moves (open' : 0 < window) {n : Nat} {s : Stage ι ε ρ}
    (enough : s.remaining ≤ n) :
    (moves order window failFast work n s).next order window failFast work = none := by
  induction n generalizing s with
  | zero =>
    cases step : s.next order window failFast work with
    | none => exact step
    | some t => exact absurd (next_remaining open' step) (by omega)
  | succ n ih =>
    unfold moves
    split
    · next stuck => exact stuck
    · next step =>
      have fewer := next_remaining open' step
      exact ih (by omega)

theorem moves_of_none (n : Nat) {s : Stage ι ε ρ}
    (stuck : s.next order window failFast work = none) :
    moves order window failFast work n s = s := by
  cases n with
  | zero => rfl
  | succ n => simp only [moves, stuck]

theorem moves_of_some {n : Nat} {s t : Stage ι ε ρ}
    (step : s.next order window failFast work = some t) :
    moves order window failFast work (n + 1) s = moves order window failFast work n t := by
  simp only [moves, step]

theorem next_raised {s : Stage ι ε ρ} (raised : s.flight.delivery.raised.isSome = true) :
    s.next order window failFast work = none := if_pos raised

/-- Once all items are sent off, the moves are the waits for what is in flight. -/
theorem moves_finish (open' : 0 < window) {f : Flight ι ε ρ} {n fuel : Nat}
    (enough : f.pending.length ≤ n) (fuelled : f.pending.length ≤ fuel) :
    (moves order window failFast work n ⟨[], f⟩).flight =
      f.finish order failFast work fuel := by
  have landed {f : Flight ι ε ρ} (none' : f.pending = []) :
      (⟨[], f⟩ : Stage ι ε ρ).next order window failFast work = none := by
    simp [next, none', open']
  induction fuel generalizing f n with
  | zero =>
    have none' : f.pending = [] := List.length_eq_zero_iff.mp (by omega)
    rw [moves_of_none n (landed none')]
    rfl
  | succ fuel ih =>
    unfold Flight.finish
    split
    · next ended =>
      rw [moves_of_none n]
      rcases Bool.or_eq_true_iff.mp ended with raised | none'
      · exact next_raised raised
      · exact landed (List.isEmpty_iff.mp none')
    · next going =>
      obtain ⟨quiet, flying⟩ : f.delivery.raised = none ∧ f.pending ≠ [] := by
        simpa using going
      have some' := List.length_pos_iff.mpr flying
      have shorter := f.drain_shorter order failFast work
      have step : (⟨[], f⟩ : Stage ι ε ρ).next order window failFast work =
          some ⟨[], f.drain order failFast work⟩ := by
        simp [next, quiet, flying]
      obtain ⟨n, rfl⟩ : ∃ m, n = m + 1 := ⟨n - 1, by omega⟩
      rw [moves_of_some step]
      exact ih (by omega) (by omega)

theorem submits_raised {f : Flight ι ε ρ} (raised : f.delivery.raised.isSome = true)
    (items : List ι) : items.foldl (Flight.submit order window failFast work) f = f := by
  induction items with
  | nil => rfl
  | cons item items ih =>
    have same : f.submit order window failFast work item = f := if_pos raised
    rw [List.foldl_cons, same, ih]

theorem finish_raised {f : Flight ι ε ρ} (raised : f.delivery.raised.isSome = true)
    (fuel : Nat) : f.finish order failFast work fuel = f := by
  cases fuel with
  | zero => rfl
  | succ fuel => simp only [Flight.finish, raised, Bool.true_or, if_true]

theorem submit_of_full {f : Flight ι ε ρ} (quiet : ¬f.delivery.raised.isSome = true) {item : ι}
    (full : window ≤ f.pending.length + 1) :
    f.submit order window failFast work item = (f.sent item).drain order failFast work := by
  unfold Flight.submit
  rw [if_neg quiet]
  exact if_pos (by simpa using full)

theorem submit_of_room {f : Flight ι ε ρ} (quiet : ¬f.delivery.raised.isSome = true) {item : ι}
    (room : ¬window ≤ f.pending.length + 1) :
    f.submit order window failFast work item = f.sent item := by
  unfold Flight.submit
  rw [if_neg quiet]
  exact if_neg (by simpa using room)

/-- The moves from a window with room come to what sending all items off and waiting for
the last of them comes to. -/
theorem moves_submits (open' : 0 < window) {items : List ι} {f : Flight ι ε ρ} {n fuel : Nat}
    (room : f.pending.length < window) (enough : (⟨items, f⟩ : Stage ι ε ρ).remaining ≤ n)
    (fuelled :
      (items.foldl (Flight.submit order window failFast work) f).pending.length ≤ fuel) :
    (moves order window failFast work n ⟨items, f⟩).flight =
      (items.foldl (Flight.submit order window failFast work) f).finish order failFast work
        fuel := by
  induction items generalizing f n with
  | nil => exact moves_finish open' (by simpa [remaining] using enough) fuelled
  | cons item items ih =>
    by_cases raised : f.delivery.raised.isSome = true
    · rw [moves_of_none n (next_raised raised), submits_raised raised, finish_raised raised]
    · have send : (⟨item :: items, f⟩ : Stage ι ε ρ).next order window failFast work =
          some ⟨items, f.sent item⟩ := by
        simp [next, raised, room]
      simp only [remaining, List.length_cons] at enough ih
      rw [List.foldl_cons] at fuelled ⊢
      obtain ⟨n, rfl⟩ : ∃ m, n = m + 1 := ⟨n - 1, by omega⟩
      rw [moves_of_some send]
      by_cases full : window ≤ f.pending.length + 1
      · have wait : (⟨items, f.sent item⟩ : Stage ι ε ρ).next order window failFast work =
            some ⟨items, (f.sent item).drain order failFast work⟩ := by
          have stopped : ¬(f.sent item).pending.length < window := by
            rw [Flight.length_sent]
            omega
          exact (if_neg raised).trans (if_neg stopped)
        have shorter := (f.sent item).drain_shorter order failFast work
        rw [Flight.length_sent] at shorter
        rw [submit_of_full raised full] at fuelled ⊢
        obtain ⟨n, rfl⟩ : ∃ m, n = m + 1 := ⟨n - 1, by omega⟩
        rw [moves_of_some wait]
        exact ih (by omega) (by omega) fuelled
      · rw [submit_of_room raised full] at fuelled ⊢
        refine ih ?_ ?_ fuelled
        · rw [Flight.length_sent]
          omega
        · rw [Flight.length_sent]
          omega

end Stage

section

variable (order : Finishing) (failFast : Bool) (work : ι → Except ε ρ)

theorem span_pos {p : Pool} (staffed : 1 ≤ p.workers) : 0 < p.span := by
  unfold span
  omega

/-- A run of a pool delivers what its moves deliver. -/
theorem run_moves {p : Pool} (staffed : 1 ≤ p.workers) (items : List ι) :
    p.run order failFast work items = .ok
      (Stage.moves order p.span failFast work (2 * items.length) ⟨items, {}⟩).flight.delivery := by
  have unstaffed : ¬p.workers < 1 := by omega
  have moved : (Stage.moves order p.span failFast work (2 * items.length) ⟨items, {}⟩).flight =
      (items.foldl (Flight.submit order p.span failFast work) {}).finish order failFast work _ :=
    Stage.moves_submits (span_pos staffed) (span_pos staffed) (Nat.le_refl _) (Nat.le_refl _)
  rw [run, if_neg unstaffed, moved]

end

/-! ### What is delivered -/

def fault? (r : Except ε ρ) : Option ε :=
  match r with
  | .ok _ => none
  | .error e => some e

/-- The results of the items that come through. -/
def values (work : ι → Except ε ρ) (items : List ι) : List ρ :=
  items.filterMap fun i => (work i).toOption

/-- The errors of the items that do not. -/
def faults (work : ι → Except ε ρ) (items : List ι) : List ε :=
  items.filterMap fun i => fault? (work i)

variable {work : ι → Except ε ρ}

theorem values_cons_ok {i : ι} {r : ρ} (came : work i = .ok r) (items : List ι) :
    values work (i :: items) = r :: values work items := by
  simp [values, came, Except.toOption]

theorem values_cons_error {i : ι} {e : ε} (failed : work i = .error e) (items : List ι) :
    values work (i :: items) = values work items := by
  simp [values, failed, Except.toOption]

theorem faults_cons_ok {i : ι} {r : ρ} (came : work i = .ok r) (items : List ι) :
    faults work (i :: items) = faults work items := by
  simp [faults, came, fault?]

theorem faults_cons_error {i : ι} {e : ε} (failed : work i = .error e) (items : List ι) :
    faults work (i :: items) = e :: faults work items := by
  simp [faults, failed, fault?]

/-- Where errors are not raised, every outcome is delivered. -/
theorem settle_patient {d : Delivery ε ρ} (quiet : d.raised = none) (items : List ι) :
    settle false work d items =
      ⟨d.results ++ values work items, d.errors ++ faults work items, none⟩ := by
  induction items generalizing d with
  | nil =>
    obtain ⟨results, errors, raised⟩ := d
    obtain rfl : raised = none := quiet
    simp [settle, values, faults]
  | cons i items ih =>
    change settle false work (d.take false (work i)) items = _
    cases made : work i with
    | ok r =>
      rw [ih (by simp [Delivery.take, quiet]), values_cons_ok made, faults_cons_ok made]
      simp [Delivery.take, quiet]
    | error e =>
      rw [ih (by simp [Delivery.take, quiet]), values_cons_error made, faults_cons_error made]
      simp [Delivery.take, quiet]

theorem settle_of_raised {d : Delivery ε ρ} {failFast : Bool}
    (raised : d.raised.isSome = true) (items : List ι) : settle failFast work d items = d := by
  induction items with
  | nil => rfl
  | cons i items ih =>
    have same : d.take failFast (work i) = d := if_pos raised
    change settle failFast work (d.take failFast (work i)) items = d
    rw [same, ih]

/-- Where the first error is raised, the results before it are delivered, and it is the
only error that is. -/
theorem settle_hasty (work : ι → Except ε ρ) {d : Delivery ε ρ} (quiet : d.raised = none)
    (items : List ι) :
    (faults work items = [] ∧
      settle true work d items = ⟨d.results ++ values work items, d.errors, none⟩) ∨
    ∃ before i after e, items = before ++ i :: after ∧ work i = .error e ∧
      settle true work d items = ⟨d.results ++ values work before, d.errors ++ [e], some e⟩ := by
  induction items generalizing d with
  | nil =>
    obtain ⟨results, errors, raised⟩ := d
    obtain rfl : raised = none := quiet
    exact .inl ⟨rfl, by simp [settle, values]⟩
  | cons i items ih =>
    have first : settle true work d (i :: items) =
        settle true work (d.take true (work i)) items := rfl
    rw [first]
    cases made : work i with
    | error e =>
      have raised : d.take true (.error e) = ⟨d.results, d.errors ++ [e], some e⟩ := by
        simp [Delivery.take, quiet]
      refine .inr ⟨[], i, items, e, rfl, made, ?_⟩
      rw [raised, settle_of_raised rfl]
      simp [values]
    | ok r =>
      have taken : d.take true (.ok r) = { d with results := d.results ++ [r] } := by
        simp [Delivery.take, quiet]
      rw [taken]
      have rest := ih (d := { d with results := d.results ++ [r] }) quiet
      rw [faults_cons_ok made, values_cons_ok made]
      rcases rest with ⟨clean, all⟩ | ⟨before, j, after, e, split, failed, ended⟩
      · exact .inl ⟨clean, by rw [all]; simp⟩
      · refine .inr ⟨i :: before, j, after, e, by rw [split]; rfl, failed, ?_⟩
        rw [ended, values_cons_ok made]
        simp

theorem mem_faults {items : List ι} {e : ε} :
    e ∈ faults work items ↔ ∃ i ∈ items, work i = .error e := by
  simp only [faults, List.mem_filterMap]
  refine exists_congr fun i => and_congr_right fun _ => ?_
  cases work i <;> simp [fault?]

/-- Where errors are not raised, a pool delivers the outcome of each item once. -/
theorem run_patient {p : Pool} (staffed : 1 ≤ p.workers) (order : Finishing)
    (work : ι → Except ε ρ) (items : List ι) :
    ∃ d, p.run order false work items = .ok d ∧ d.raised = none ∧
      d.results.Perm (values work items) ∧ d.errors.Perm (faults work items) := by
  obtain ⟨settled, rest, ran, perm, landed⟩ := run_settled order staffed false work items
  rw [settle_patient rfl] at ran landed
  rw [landed rfl, List.append_nil] at perm
  exact ⟨_, ran, rfl, perm.filterMap _, perm.filterMap _⟩

/-- Where the first error is raised, there is one to raise just when an item fails. -/
theorem run_hasty {p : Pool} (staffed : 1 ≤ p.workers) (order : Finishing)
    (work : ι → Except ε ρ) (items : List ι) :
    ∃ d, p.run order true work items = .ok d ∧
      (d.raised.isSome = true ↔ ∃ i ∈ items, ∃ e, work i = .error e) ∧
      (∀ e, d.raised = some e → (∃ i ∈ items, work i = .error e) ∧ d.errors = [e]) ∧
      (d.raised = none → d.errors = [] ∧ d.results.Perm (values work items)) ∧
      d.results.Subperm (values work items) := by
  obtain ⟨settled, rest, ran, perm, landed⟩ := run_settled order staffed true work items
  rcases settle_hasty work (d := {}) rfl settled with
    ⟨clean, all⟩ | ⟨before, i, after, e, split, failed, ended⟩
  · rw [all] at ran landed
    rw [landed rfl, List.append_nil] at perm
    have delivered : (values work settled).Perm (values work items) := perm.filterMap _
    refine ⟨_, ran, ⟨nofun, ?_⟩, nofun, fun _ => ⟨rfl, delivered⟩, delivered.subperm⟩
    rintro ⟨i, inside, e, failed⟩
    have found := mem_faults.mpr ⟨i, perm.mem_iff.mpr inside, failed⟩
    rw [clean] at found
    cases found
  · rw [ended] at ran
    rw [split, List.append_assoc] at perm
    have inside : i ∈ items := perm.subset (by simp)
    have delivered := perm.filterMap fun i => (work i).toOption
    rw [List.filterMap_append] at delivered
    refine ⟨_, ran, ⟨fun _ => ⟨i, inside, e, failed⟩, fun _ => rfl⟩, fun e' same => ?_, nofun,
      (List.sublist_append_left _ _).subperm.trans delivered.subperm⟩
    obtain rfl := Option.some.inj same
    exact ⟨⟨i, inside, failed⟩, rfl⟩

/-- A pool with a worker at least comes to its end after two moves for each item at most,
in whatever order items finish, and never has more in flight than the larger of its window
and its workers. Without `failFast` each outcome is delivered once. With `failFast` an
error is raised just when there is one; it is the only error delivered, and the results
delivered are those of some of the items that come through. -/
theorem run_delivers {p : Pool} (staffed : 1 ≤ p.workers) (order : Finishing)
    (work : ι → Except ε ρ) (items : List ι) :
    (∀ failFast,
      (∀ n, ((Stage.moves order p.span failFast work n ⟨items, {}⟩).flight.pending.length : Int) ≤
        max p.window p.workers) ∧
      (Stage.moves order p.span failFast work (2 * items.length) ⟨items, {}⟩).next
        order p.span failFast work = none ∧
      p.run order failFast work items = .ok (Stage.moves order p.span failFast work
        (2 * items.length) ⟨items, {}⟩).flight.delivery) ∧
    (∃ d, p.run order false work items = .ok d ∧ d.raised = none ∧
      d.results.Perm (values work items) ∧ d.errors.Perm (faults work items)) ∧
    ∃ d, p.run order true work items = .ok d ∧
      (d.raised.isSome = true ↔ ∃ i ∈ items, ∃ e, work i = .error e) ∧
      (∀ e, d.raised = some e → (∃ i ∈ items, work i = .error e) ∧ d.errors = [e]) ∧
      (d.raised = none → d.errors = [] ∧ d.results.Perm (values work items)) ∧
      d.results.Subperm (values work items) := by
  refine ⟨fun failFast => ⟨fun n => ?_, ?_, run_moves order failFast work staffed items⟩,
    run_patient staffed order work items, run_hasty staffed order work items⟩
  · have within : (Stage.moves order p.span failFast work n
        ⟨items, {}⟩).flight.pending.length ≤ p.span := Stage.moves_within n (Nat.zero_le _)
    have whole : (p.span : Int) = max p.window p.workers := by
      unfold span
      omega
    omega
  · exact Stage.next_moves (span_pos staffed) (Nat.le_refl _)

/-- Twice a number, except for two. -/
def doubling (n : Nat) : Except String Nat := if n = 2 then .error "two" else .ok (2 * n)

/-- Two workers, of whom the one who started last is always done first. -/
theorem run_delivers_doubling :
    1 ≤ (⟨2, 1⟩ : Pool).workers ∧
    (∀ n, ((Stage.moves (fun _ n => [n - 1]) 2 true doubling n ⟨[1, 2, 3], {}⟩).flight.pending.length
      : Int) ≤ 2) ∧
    (∃ d, Pool.run ⟨2, 1⟩ (fun _ n => [n - 1]) false doubling [1, 2, 3] = .ok d ∧
      d.results.Perm [2, 6] ∧ d.errors.Perm ["two"]) ∧
    ∃ d, Pool.run ⟨2, 1⟩ (fun _ n => [n - 1]) true doubling [1, 2, 3] = .ok d ∧
      d.raised.isSome = true ∧ d.results.Subperm [2, 6] := by
  have staffed : 1 ≤ (⟨2, 1⟩ : Pool).workers := by decide
  obtain ⟨moves, ⟨d, ran, _, results, errors⟩, d', ran', raised, _, _, some'⟩ :=
    run_delivers staffed (fun _ n => [n - 1]) doubling [1, 2, 3]
  exact ⟨staffed, (moves true).1, ⟨d, ran, results, errors⟩, d', ran',
    raised.mpr ⟨2, by decide, "two", rfl⟩, some'⟩

end Pool
end Quire
