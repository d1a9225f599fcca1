import Quire.Proofs.FileLimit
import Quire.Proofs.Processing

/-! What can go wrong where files are gone through in batches. Files that fail are passed
over and the batches are put together whatever they bring, so all that is left is a check
that fails, or that nothing came through. -/

namespace Quire.Execution

variable {σ α : Type} {w : Watch σ} {work : String → Attempt α} {e : Failure}

theorem goBatch_error {index : Nat} {files : List String} {done : Execution α} {s : σ}
    (failed : (goBatch w work index done s files).outcome = .error e) :
    ∃ n t, (w.check n t).1 = .error e := by
  induction files generalizing done s with
  | nil => cases failed
  | cons path paths ih =>
    unfold goBatch at failed
    split at failed
    · next looked =>
      refine ⟨done.results.length, s, ?_⟩
      rw [looked]
      exact congrArg Except.error (Except.error.inj failed)
    · cases failed
    · exact ih failed

theorem runAll_error {total : Nat} (numbered : List (List String × Nat)) {s : σ}
    {t : Trace σ (Execution α)} (inside : t ∈ (runAll w work total numbered s).1)
    (failed : t.outcome = .error e) : ∃ n s', (w.check n s').1 = .error e := by
  induction numbered generalizing s with
  | nil => cases inside
  | cons b numbered ih =>
    rcases List.mem_cons.mp inside with rfl | later
    · exact goBatch_error failed
    · exact ih later

theorem outcomeOf_error {parts : List (Trace σ (Execution α))} {index : Nat}
    (failed : outcomeOf parts index = .error e) : ∃ t ∈ parts, t.outcome = .error e := by
  unfold outcomeOf at failed
  split at failed
  · next t there =>
    refine ⟨t, List.mem_of_getElem? there, ?_⟩
    cases ended : t.outcome with
    | ok value =>
      rw [ended] at failed
      cases failed
    | error e' =>
      rw [ended] at failed
      obtain rfl := Except.error.inj failed
      rfl
  · cases failed

/-- Batches that cannot be put together are those of which one failed. -/
theorem collected_error {order : Pool.Finishing} {parts : List (Trace σ (Execution α))}
    (staffed : 1 ≤ parts.length) (failed : collected order parts = .error e) :
    ∃ t ∈ parts, t.outcome = .error e := by
  obtain ⟨d, ran, _, raised, _⟩ := Pool.run_hasty (p := ⟨parts.length, parts.length⟩)
    (Int.ofNat_le.mpr staffed) order (outcomeOf parts) (List.range parts.length)
  rcases bind_eq_error.mp failed with broken | ⟨d', ran', ended⟩
  · rw [ran] at broken
    cases broken
  · obtain rfl := Except.ok.inj (ran.symm.trans (lift_eq_ok.mp ran'))
    cases loud : d.raised with
    | none =>
      rw [loud] at ended
      cases ended
    | some e' =>
      obtain ⟨⟨i, _, failed'⟩, _⟩ := raised e' loud
      rw [loud] at ended
      obtain rfl := Except.error.inj ended
      exact outcomeOf_error failed'

theorem closed_error {how : String} {t : Trace σ (Execution α)}
    (failed : (closed how t).outcome = .error e) :
    t.outcome = .error e ∨ ∃ done f, t.outcome = .ok done ∧ f ∈ done.errors ∧ e = .fault f := by
  unfold closed at failed
  split at failed
  · next ended => exact .inl (ended.trans failed)
  · next done ended =>
    refine .inr ⟨done, ?_⟩
    simp only [survived] at failed
    split at failed
    · next f others _ told =>
      refine ⟨f, ended, ?_, (Except.error.inj failed).symm⟩
      rw [told]
      exact List.mem_cons_self
    · cases failed

/-- A fault that batches are told to end with: that of a file that fails, or that a bound is
exceeded. -/
def Told (work : String → Attempt α) (files : List String) (f : Fault) : Prop :=
  (∃ path ∈ files, (tryFile work path).2 = .error f) ∨ f.kind = .bounds

theorem Told.mono {few many : List String} {f : Fault} (told : Told work few f)
    (all : ∀ path ∈ few, path ∈ many) : Told work many f :=
  told.imp_left fun ⟨path, inside, failed⟩ => ⟨path, all path inside, failed⟩

theorem mem_errors_add {done : Execution α} {r : Except Fault α} {f : Fault}
    (inside : f ∈ (done.add r).errors) : f ∈ done.errors ∨ r = .error f := by
  cases r with
  | ok x => exact .inl inside
  | error f' =>
    rcases List.mem_append.mp inside with before | last
    · exact .inl before
    · obtain rfl := List.mem_singleton.mp last
      exact .inr rfl

theorem goBatch_told {index : Nat} {files : List String} {done ended : Execution α} {s : σ}
    (came : (goBatch w work index done s files).outcome = .ok ended) {f : Fault}
    (inside : f ∈ ended.errors) : f ∈ done.errors ∨ Told work files f := by
  induction files generalizing done s with
  | nil =>
    obtain rfl := Except.ok.inj came
    exact .inl inside
  | cons path paths ih =>
    unfold goBatch at came
    split at came
    · cases came
    · obtain rfl := Except.ok.inj came
      rcases mem_errors_add inside with before | same
      · exact .inl before
      · obtain rfl := Except.error.inj same
        exact .inr (.inr rfl)
    · rcases ih came with before | later
      · rcases mem_errors_add before with before | here
        · exact .inl before
        · exact .inr (.inl ⟨path, List.mem_cons_self, here⟩)
      · exact .inr (later.mono fun _ => List.mem_cons_of_mem path)

theorem runAll_told {total : Nat} (numbered : List (List String × Nat)) {s : σ}
    {t : Trace σ (Execution α)} (inside : t ∈ (runAll w work total numbered s).1)
    {ended : Execution α} (came : t.outcome = .ok ended) {f : Fault} (told : f ∈ ended.errors) :
    Told work (numbered.map Prod.fst).flatten f := by
  induction numbered generalizing s with
  | nil => cases inside
  | cons b numbered ih =>
    rw [List.map_cons, List.flatten_cons]
    rcases List.mem_cons.mp inside with rfl | later
    · rcases goBatch_told came told with none' | here
      · cases none'
      · exact here.mono fun _ => List.mem_append_left _
    · exact (ih later).mono fun _ => List.mem_append_right _

theorem collected_told {order : Pool.Finishing} {parts : List (Trace σ (Execution α))}
    {ended : Execution α} (put : collected order parts = .ok ended) {f : Fault}
    (told : f ∈ ended.errors) : ∃ t ∈ parts, ∃ part, t.outcome = .ok part ∧ f ∈ part.errors := by
  obtain ⟨values, whole, rfl⟩ := collected_eq_ok put
  obtain ⟨part, inside, told⟩ := List.mem_flatMap.mp told
  have there : (.ok part : Outcome (Execution α)) ∈ parts.map Trace.outcome := by
    rw [whole]
    exact List.mem_map_of_mem inside
  obtain ⟨t, inside, ended⟩ := List.mem_map.mp there
  exact ⟨t, inside, part, ended, told⟩

/-- With a worker at least, files in batches fail by the fault of a file, by a bound that is
exceeded, or by a check that fails. -/
theorem parallel_error {order : Pool.Finishing} {files : List String} {workers : Value}
    (staffed : workers.Staffs) {s : σ}
    (failed : (parallel order w work files workers s).outcome = .error e) :
    (∃ f, e = .fault f ∧ Told work files f) ∨ ∃ n t, (w.check n t).1 = .error e := by
  obtain ⟨n, counts, positive⟩ := staffed
  obtain ⟨size, cut⟩ := partitionFor_whole counts positive files
  have joins := pieces_flatten size files
  unfold parallel at failed
  rw [cut] at failed
  generalize pieces size files = batches at failed joins
  cases batches with
  | nil => cases failed
  | cons first others =>
    have some' : 1 ≤ (runAll w work (first :: others).length (first :: others).zipIdx s).1.length :=
      Nat.succ_pos _
    rcases closed_error failed with broken | ⟨done, f, ended, told, rfl⟩
    · obtain ⟨t, inside, ended⟩ := collected_error some' broken
      exact .inr (runAll_error (first :: others).zipIdx inside ended)
    · obtain ⟨t, inside, part, ended, told⟩ := collected_told ended told
      have told := runAll_told (first :: others).zipIdx inside ended told
      rw [List.zipIdx_map_fst, joins] at told
      exact .inl ⟨f, rfl, told⟩

end Quire.Execution
