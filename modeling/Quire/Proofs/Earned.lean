import Quire.Proofs.Chain
import Quire.Proofs.Pool
import Quire.Proofs.Work

/-! Every result that an execution brings in is what the work made of some file,
whatever the bounds, the batches and the order in which they finish. -/

namespace Quire

namespace Pool

variable {ι ε ρ : Type} {work : ι → Except ε ρ} {failFast : Bool}

theorem take_results {d : Delivery ε ρ} {outcome : Except ε ρ} {r : ρ}
    (inside : r ∈ (d.take failFast outcome).results) : r ∈ d.results ∨ outcome = .ok r := by
  unfold Delivery.take at inside
  split at inside
  · exact .inl inside
  · cases outcome with
    | ok r' =>
      rcases List.mem_append.mp inside with before | new
      · exact .inl before
      · exact .inr (congrArg Except.ok (List.mem_singleton.mp new).symm)
    | error e => exact .inl inside

theorem settle_results {d : Delivery ε ρ} {items : List ι} {r : ρ}
    (inside : r ∈ (settle failFast work d items).results) :
    r ∈ d.results ∨ ∃ i, work i = .ok r := by
  induction items generalizing d with
  | nil => exact .inl inside
  | cons i items ih =>
    rcases ih inside with taken | made
    · exact (take_results taken).imp_right fun made => ⟨i, made⟩
    · exact .inr made

/-- What a pool delivers is the outcome of its work on some item. -/
theorem run_results {p : Pool} {order : Finishing} {items : List ι} {d : Delivery ε ρ}
    (ran : p.run order failFast work items = .ok d) {r : ρ} (inside : r ∈ d.results) :
    ∃ i, work i = .ok r := by
  by_cases staffed : 1 ≤ p.workers
  · obtain ⟨settled, _, whole, _⟩ := run_settled order staffed failFast work items
    obtain rfl := Except.ok.inj (ran.symm.trans whole)
    exact (settle_results inside).resolve_left nofun
  · rw [run, if_pos (by omega)] at ran
    cases ran

end Pool

namespace Execution

variable {σ α : Type} {w : Watch σ} {work : String → Attempt α}

/-- Every result is what the work made of some file. -/
def Earned (work : String → Attempt α) (e : Execution α) : Prop :=
  ∀ x ∈ e.results, ∃ path, (work path).result = .ok x

theorem tryFile_eq_ok {path : String} {x : α} (came : (tryFile work path).2 = .ok x) :
    (work path).result = .ok x := by
  unfold tryFile at came
  dsimp only at came
  split at came
  · next made =>
    obtain rfl := Except.ok.inj came
    exact made
  · cases came
  · cases came

theorem Earned.start (batches : Nat) : Earned work { batches } := fun _ inside => by cases inside

theorem Earned.add {done : Execution α} (earned : Earned work done) {r : Except Fault α}
    (made : ∀ x, r = .ok x → ∃ path, (work path).result = .ok x) : Earned work (done.add r) := by
  cases r with
  | error f => exact earned
  | ok x =>
    intro y inside
    rcases List.mem_append.mp inside with before | new
    · exact earned y before
    · exact List.mem_singleton.mp new ▸ made x rfl

theorem Earned.tryFile {done : Execution α} (earned : Earned work done) (path : String) :
    Earned work (done.add (Execution.tryFile work path).2) :=
  earned.add fun _ came => ⟨path, tryFile_eq_ok came⟩

theorem goSequential_earned {files : List String} {done e : Execution α} {s : σ}
    (earned : Earned work done) (ended : (goSequential w work done s files).outcome = .ok e) :
    Earned work e := by
  induction files generalizing done s with
  | nil =>
    obtain rfl := Except.ok.inj ended
    exact earned
  | cons path paths ih =>
    unfold goSequential at ended
    split at ended
    · cases ended
    · cases ended
    · simp only [Trace.after] at ended
      split at ended
      · cases ended
      · exact ih (earned.tryFile path) ended

theorem goBatch_earned {files : List String} {done e : Execution α} {s : σ} {index : Nat}
    (earned : Earned work done) (ended : (goBatch w work index done s files).outcome = .ok e) :
    Earned work e := by
  induction files generalizing done s with
  | nil =>
    obtain rfl := Except.ok.inj ended
    exact earned
  | cons path paths ih =>
    unfold goBatch at ended
    split at ended
    · cases ended
    · obtain rfl := Except.ok.inj ended
      exact earned.add nofun
    · exact ih (earned.tryFile path) ended

theorem closed_eq_ok {how : String} {t : Trace σ (Execution α)} {e : Execution α}
    (ended : (closed how t).outcome = .ok e) : t.outcome = .ok e := by
  unfold closed at ended
  split at ended
  · cases ended
  · next done whole =>
    rw [whole]
    dsimp only at ended
    unfold survived at ended
    split at ended
    · cases ended
    · exact ended

theorem sequential_earned {files : List String} {s : σ} {e : Execution α}
    (ended : (sequential w work files s).outcome = .ok e) : Earned work e :=
  goSequential_earned (.start _) (closed_eq_ok ended)

theorem runAll_earned {total : Nat} {numbered : List (List String × Nat)} {s : σ}
    {t : Trace σ (Execution α)} (inside : t ∈ (runAll w work total numbered s).1)
    {e : Execution α} (ended : t.outcome = .ok e) : Earned work e := by
  induction numbered generalizing s with
  | nil => cases inside
  | cons b numbered ih =>
    rcases List.mem_cons.mp inside with rfl | later
    · exact goBatch_earned (.start 1) ended
    · exact ih later

theorem outcomeOf_earned {parts : List (Trace σ (Execution α))}
    (each : ∀ t ∈ parts, ∀ e, t.outcome = .ok e → Earned work e) {i j : Nat} {e : Execution α}
    (made : outcomeOf parts j = .ok (i, e)) : Earned work e := by
  unfold outcomeOf at made
  cases there : parts[j]? with
  | none =>
    rw [there] at made
    obtain ⟨_, rfl⟩ := Prod.mk.inj (Except.ok.inj made)
    exact .start 0
  | some t =>
    rw [there] at made
    cases ended : t.outcome with
    | error f => simp [ended, Except.map] at made
    | ok e' =>
      simp only [ended, Except.map] at made
      obtain ⟨_, rfl⟩ := Prod.mk.inj (Except.ok.inj made)
      exact each t (List.mem_of_getElem? there) e' ended

/-- What is put together from batches is earned by one of them. -/
theorem collected_earned {order : Pool.Finishing} {parts : List (Trace σ (Execution α))}
    (each : ∀ t ∈ parts, ∀ e, t.outcome = .ok e → Earned work e) {e : Execution α}
    (put : collected order parts = .ok e) : Earned work e := by
  unfold collected at put
  obtain ⟨d, ran, put⟩ := bind_eq_ok.mp put
  have ran := lift_eq_ok.mp ran
  cases raised : d.raised with
  | some e =>
    rw [raised] at put
    cases put
  | none =>
    rw [raised] at put
    obtain rfl := Except.ok.inj put
    intro x inside
    obtain ⟨part, placed, inside⟩ := List.mem_flatMap.mp inside
    obtain ⟨i, _, rfl⟩ := List.mem_map.mp placed
    unfold slot at inside
    cases found : d.results.lookup i with
    | none =>
      rw [found] at inside
      cases inside
    | some part =>
      rw [found] at inside
      obtain ⟨before, after, split, _⟩ := List.lookup_eq_some_iff.mp found
      obtain ⟨j, made⟩ := Pool.run_results ran (show (i, part) ∈ d.results by simp [split])
      exact outcomeOf_earned each made x inside

theorem parallel_earned {order : Pool.Finishing} {files : List String} {workers : Value} {s : σ}
    {e : Execution α} (ended : (parallel order w work files workers s).outcome = .ok e) :
    Earned work e := by
  unfold parallel at ended
  split at ended
  · cases ended
  · obtain rfl := Except.ok.inj ended
    exact nofun
  · exact collected_earned (fun t inside e => runAll_earned inside) (closed_eq_ok ended)

end Execution

theorem Pipeline.execute_earned {m : Monitor} {strategy : Strategy}
    {work : String → Attempt Document} {files : List String} {s : Session}
    {e : Execution Document} (ended : ((execute m strategy work files).run s).1 = .ok e) :
    Execution.Earned work e := by
  unfold execute at ended
  split at ended
  · obtain rfl := Except.ok.inj ended
    exact nofun
  · split at ended
    · exact Execution.parallel_earned ended
    · exact Execution.sequential_earned ended

end Quire
