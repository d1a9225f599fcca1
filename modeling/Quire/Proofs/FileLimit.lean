import Quire.Proofs.Delivery
import Quire.Proofs.Earned
import Quire.Proofs.Monitor

/-! How many results a run can come to under a limit on files. The limit is looked at
before a file, against the results so far, so one more than the limit can come in; and
each batch counts its own results only. -/

namespace Quire

namespace Monitor

/-- What a look at the gauges finds, in the order in which the limits are held against it. -/
theorem standing_cases {m : Monitor} {l : Limits} {n : Nat} {s : Snapshot} {standing : Standing}
    (told : m.standing l (.int n) s = .ok standing) :
    (∃ ceiling detail, orTooLarge l.memoryBytes? = .ok ceiling ∧
      ceiling.less (.whole s.bytes) = true ∧ standing = .exceeded "memory" detail) ∨
    (l.files.less (.whole n) = true ∧ ∃ detail, standing = .exceeded "files" detail) ∨
    l.files.less (.whole n) = false ∧
      ((∃ elapsed detail, m.since s.time = .ok elapsed ∧ l.time.less elapsed = true ∧
        standing = .exceeded "time" detail) ∨
      ∀ limit detail, standing ≠ .exceeded limit detail) := by
  obtain ⟨ceiling, memory, told⟩ := bind_eq_ok.mp told
  split at told
  · next beyond =>
    obtain ⟨detail, _, told⟩ := bind_eq_ok.mp told
    exact .inl ⟨ceiling, detail, memory, beyond, (Except.ok.inj told).symm⟩
  · obtain ⟨count, counted, told⟩ := bind_eq_ok.mp told
    obtain rfl := Except.ok.inj counted
    split at told
    · next beyond => exact .inr (.inl ⟨beyond, _, (Except.ok.inj told).symm⟩)
    · next inside =>
      refine .inr (.inr ⟨by simpa using inside, ?_⟩)
      obtain ⟨elapsed, passed, told⟩ := bind_eq_ok.mp told
      split at told
      · next beyond =>
        obtain ⟨detail, _, told⟩ := bind_eq_ok.mp told
        exact .inl ⟨elapsed, detail, passed, beyond, (Except.ok.inj told).symm⟩
      · obtain ⟨ratio, _, told⟩ := bind_eq_ok.mp told
        obtain rfl := Except.ok.inj told
        refine .inr fun limit detail => ?_
        split <;> exact nofun

theorem check_standing {m : Monitor} {l : Limits} (bounded : m.bounds = .bounded l) {n : Nat}
    {g : Gauges} {standing : Standing} (told : (m.watch.check n g).1 = .ok standing) :
    ∃ s, (Snapshot.take g).1 = .ok s ∧ m.standing l (.int n) s = .ok standing := by
  simp only [watch, check, bounded] at told
  rcases taken : (Snapshot.take g).1 with e | s
  · simp [taken, Except.bind, Except.map] at told
  · refine ⟨s, rfl, ?_⟩
    simp only [taken, Except.bind] at told
    cases standing' : m.standing l (.int n) s with
    | error e => simp [standing', Except.map] at told
    | ok found => simpa [standing', Except.map] using told

theorem later_take (g : Gauges) : g.Later (Snapshot.take g).2 := by
  unfold Snapshot.take
  dsimp only
  split
  · exact Gauges.later_readMemory g
  · exact (Gauges.later_readMemory g).trans (Gauges.later_readClock _)

theorem later_check (m : Monitor) (n : Nat) (g : Gauges) : g.Later (m.watch.check n g).2 :=
  later_take g

end Monitor

/-- The largest count of files that is not beyond the limit. -/
def Limits.AllowsFiles (l : Limits) (most : Nat) : Prop :=
  ∀ n : Nat, l.files.less (.whole n) = true ↔ most < n

theorem Limits.allowsFiles_whole {l : Limits} {most : Nat} (whole : l.files = .whole most) :
    l.AllowsFiles most := by
  intro n
  rw [whole, Number.less_whole, decide_eq_true_iff, Int.ofNat_lt]

/-- Neither memory nor time is ever found to be beyond its limit. -/
def Monitor.Unhurried (m : Monitor) (g : Gauges) : Prop :=
  ∀ n t, g.Later t → ∀ limit detail,
    (m.watch.check n t).1 = .ok (.exceeded limit detail) → limit = "files"

/-- A watch that stops a run for its count of results alone, once it is beyond some limit. -/
structure Watch.Counts {σ : Type} (w : Watch σ) (Sound : σ → Prop) (most : Nat) : Prop where
  onward : ∀ n s, Sound s → Sound (w.check n s).2
  stops : ∀ n s limit detail, Sound s → (w.check n s).1 = .ok (.exceeded limit detail) →
    most < n
  passes : ∀ n s standing, (w.check n s).1 = .ok standing →
    (∀ limit detail, standing ≠ .exceeded limit detail) → n ≤ most

namespace Monitor

/-- By whatever memory and time come to, a check that passes does so within the limit. -/
theorem check_passes {m : Monitor} {l : Limits} (bounded : m.bounds = .bounded l) {most : Nat}
    (allows : l.AllowsFiles most) {n : Nat} {g : Gauges} {standing : Standing}
    (told : (m.watch.check n g).1 = .ok standing)
    (inside : ∀ limit detail, standing ≠ .exceeded limit detail) : n ≤ most := by
  obtain ⟨s, _, told⟩ := check_standing bounded told
  rcases standing_cases told with
    ⟨_, detail, _, _, rfl⟩ | ⟨_, detail, rfl⟩ | ⟨fits, _⟩
  · exact absurd rfl (inside _ detail)
  · exact absurd rfl (inside _ detail)
  · refine Nat.not_lt.mp fun beyond => ?_
    rw [(allows n).mpr beyond] at fits
    cases fits

theorem watch_counts {m : Monitor} {l : Limits} (bounded : m.bounds = .bounded l) {most : Nat}
    (allows : l.AllowsFiles most) {g : Gauges} (unhurried : m.Unhurried g) :
    m.watch.Counts g.Later most where
  onward n t later := later.trans (m.later_check n t)
  stops n t limit detail later told := by
    have files := unhurried n t later limit detail told
    obtain ⟨s, _, told⟩ := check_standing bounded told
    rcases standing_cases told with
      ⟨_, _, _, _, other⟩ | ⟨beyond, _⟩ | ⟨_, ⟨_, _, _, _, other⟩ | none'⟩
    · cases other
      exact absurd files (by decide)
    · exact (allows n).mp beyond
    · cases other
      exact absurd files (by decide)
    · exact absurd rfl (none' limit detail)
  passes _ _ _ := check_passes bounded allows

end Monitor

namespace Execution

variable {σ α : Type} {w : Watch σ} {work : String → Attempt α} {Sound : σ → Prop} {most : Nat}

/-- What a file adds to the results, and what the files after it add. -/
theorem results_add (done : Execution α) (path : String) (paths : List String) :
    (done.add (tryFile work path).2).results ++ successes work paths =
      done.results ++ successes work (path :: paths) :=
  (congrArg Execution.results (through_cons done path paths)).symm

/-- One by one, a run that is not stopped brings in all that comes through, of which only
the last result may be over the limit. -/
theorem goSequential_limited (counts : w.Counts Sound most)
    {files : List String} {done e : Execution α} {s : σ} (fits : done.results.length ≤ most + 1)
    (ended : (goSequential w work done s files).outcome = .ok e) :
    e.results = done.results ++ successes work files ∧ e.results.length ≤ most + 1 := by
  induction files generalizing done s with
  | nil =>
    obtain rfl := Except.ok.inj ended
    exact ⟨by simp [successes], fits⟩
  | cons path paths ih =>
    unfold goSequential at ended
    split at ended
    · cases ended
    · cases ended
    · next standing after inside looked =>
      have bound := counts.passes _ s standing (by rw [looked]) inside
      have longer := length_add_le done (tryFile work path).2
      simp only [Trace.after] at ended
      split at ended
      · cases ended
      · rw [← results_add]
        exact ih (by omega) ended

/-- A batch brings in what comes through first, one result over the limit at most. -/
theorem goBatch_limited (counts : w.Counts Sound most) {index : Nat} {files : List String}
    {done e : Execution α} {s : σ} (fits : done.results.length ≤ most + 1) (sound : Sound s)
    (ended : (goBatch w work index done s files).outcome = .ok e) :
    e.results = (done.results ++ successes work files).take (most + 1) := by
  induction files generalizing done s with
  | nil =>
    obtain rfl := Except.ok.inj ended
    simp [successes, List.take_of_length_le fits]
  | cons path paths ih =>
    unfold goBatch at ended
    split at ended
    · cases ended
    · next limit detail after looked =>
      have beyond := counts.stops _ s limit detail sound (by rw [looked])
      obtain rfl := Except.ok.inj ended
      exact (List.take_left' (show done.results.length = most + 1 by omega)).symm
    · next standing after inside looked =>
      have bound := counts.passes _ s standing (by rw [looked]) inside
      have sound : Sound after := by
        have kept := counts.onward done.results.length s sound
        rwa [looked] at kept
      have longer := length_add_le done (tryFile work path).2
      rw [← results_add]
      exact @ih (done.add (tryFile work path).2) after (by omega) sound ended

theorem goBatch_sound (counts : w.Counts Sound most) (index : Nat) (files : List String)
    (done : Execution α) {s : σ} (sound : Sound s) :
    Sound (goBatch w work index done s files).state := by
  induction files generalizing done s with
  | nil => exact sound
  | cons path paths ih =>
    have kept := counts.onward done.results.length s sound
    unfold goBatch
    split
    · next looked => rwa [looked] at kept
    · next looked => rwa [looked] at kept
    · next looked =>
      rw [looked] at kept
      exact ih _ kept

theorem runAll_limited (counts : w.Counts Sound most) {total : Nat}
    {numbered : List (List String × Nat)} {s : σ} (sound : Sound s) {values : List (Execution α)}
    (ended : (runAll w work total numbered s).1.map Trace.outcome = values.map .ok) :
    values.flatMap (·.results) =
      (numbered.map Prod.fst).flatMap fun files => (successes work files).take (most + 1) := by
  induction numbered generalizing s values with
  | nil =>
    obtain rfl := List.map_eq_nil_iff.mp ended.symm
    rfl
  | cons b numbered ih =>
    obtain ⟨files, index⟩ := b
    cases values with
    | nil => cases ended
    | cons value values =>
      obtain ⟨first, others⟩ := List.cons.inj ended
      have here := goBatch_limited counts (Nat.zero_le _) sound first
      have rest := ih (goBatch_sound counts index files { batches := 1 } sound) others
      rw [List.flatMap_cons, List.map_cons, List.flatMap_cons, rest, here]
      rfl

theorem outcomes_of_ended {parts : List (Trace σ (Execution α))}
    (each : ∀ t ∈ parts, ∃ value, t.outcome = .ok value) :
    ∃ values : List (Execution α), parts.map Trace.outcome = values.map .ok := by
  refine ⟨parts.map fun t => t.outcome.toOption.getD {}, ?_⟩
  rw [List.map_map]
  refine List.map_congr_left fun t inside => ?_
  obtain ⟨value, ended⟩ := each t inside
  simp [ended, Except.toOption]

/-- Batches are put together only if each of them came to an end. -/
theorem collected_eq_ok {order : Pool.Finishing} {parts : List (Trace σ (Execution α))}
    {e : Execution α} (put : collected order parts = .ok e) :
    ∃ values, parts.map Trace.outcome = values.map .ok ∧ e = joined values := by
  obtain ⟨d, ran, rest⟩ := bind_eq_ok.mp put
  have ran := lift_eq_ok.mp ran
  cases raised : d.raised with
  | some f =>
    rw [raised] at rest
    cases rest
  | none =>
    have staffed : 1 ≤ parts.length := by
      refine Nat.one_le_iff_ne_zero.mpr fun none' => ?_
      rw [none', Pool.run, if_pos (by decide)] at ran
      cases ran
    obtain ⟨d', ran', raises, _⟩ := Pool.run_hasty (p := ⟨parts.length, parts.length⟩)
      (Int.ofNat_le.mpr staffed) order (outcomeOf parts) (List.range parts.length)
    obtain rfl := Except.ok.inj (ran'.symm.trans ran)
    have each : ∀ t ∈ parts, ∃ value, t.outcome = .ok value := by
      intro t inside
      obtain ⟨i, bound, rfl⟩ := List.mem_iff_getElem.mp inside
      cases ended : parts[i].outcome with
      | ok value => exact ⟨value, rfl⟩
      | error f =>
        have failed : outcomeOf parts i = .error f := by
          simp [outcomeOf, List.getElem?_eq_getElem bound, ended, Except.map]
        have loud := raises.mpr ⟨i, List.mem_range.mpr bound, f, failed⟩
        rw [raised] at loud
        cases loud
    obtain ⟨values, whole⟩ := outcomes_of_ended each
    have some' : values ≠ [] := by
      rintro rfl
      rw [List.map_eq_nil_iff.mp whole] at staffed
      exact absurd staffed (Nat.not_succ_le_zero 0)
    exact ⟨values, whole, Except.ok.inj (put.symm.trans (collected_ok order some' whole))⟩

theorem sequential_limited (counts : w.Counts Sound most) {files : List String} {s : σ}
    {e : Execution α} (ended : (sequential w work files s).outcome = .ok e) :
    e.results = successes work files ∧ e.results.length ≤ most + 1 :=
  goSequential_limited counts (Nat.zero_le _) (closed_eq_ok ended)

theorem parallel_limited (counts : w.Counts Sound most) {order : Pool.Finishing}
    {files : List String} {workers : Value} {s : σ} (sound : Sound s) {e : Execution α}
    (ended : (parallel order w work files workers s).outcome = .ok e) :
    ∃ batches, partitionFor files workers = .ok batches ∧
      e.results = batches.flatMap fun files => (successes work files).take (most + 1) := by
  unfold parallel at ended
  split at ended
  · cases ended
  · next cut =>
    obtain rfl := Except.ok.inj ended
    exact ⟨[], cut, rfl⟩
  · next batches _ cut =>
    obtain ⟨values, whole, rfl⟩ := collected_eq_ok (closed_eq_ok ended)
    refine ⟨batches, cut, ?_⟩
    have all := runAll_limited counts sound whole
    rwa [List.zipIdx_map_fst] at all

theorem length_flatMap_take {β γ : Type} (f : β → List γ) (n : Nat) (xs : List β) :
    (xs.flatMap fun x => (f x).take n).length ≤ xs.length * n := by
  induction xs with
  | nil => exact Nat.zero_le _
  | cons x xs ih =>
    rw [List.flatMap_cons, List.length_append, List.length_cons, Nat.succ_mul, Nat.add_comm]
    exact Nat.add_le_add ih (List.length_take_le n _)

/-- Pieces of a size are fewer than would be needed for so many more. -/
theorem length_pieces_mul_lt {β : Type} {size : Nat} (positive : 0 < size) (xs : List β) :
    (pieces size xs).length * size < xs.length + size := by
  induction xs using pieces.induct size with
  | case1 => simpa [pieces] using positive
  | case2 x rest ih =>
    rw [pieces, List.length_cons, List.length_cons, Nat.succ_mul]
    rw [List.length_drop] at ih
    rcases Nat.lt_or_ge rest.length (size - 1) with short | long
    · have none' : rest.length - (size - 1) = 0 := by omega
      rw [none', Nat.zero_add] at ih
      have none'' : (pieces size (rest.drop (size - 1))).length = 0 := by
        rw [List.drop_eq_nil_of_le (by omega), pieces]
        rfl
      rw [none'', Nat.zero_mul]
      omega
    · omega

/-- There are no more batches than workers. -/
theorem length_partition_le {β : Type} {files : List β} {workers : Int} {batches : List (List β)}
    (cut : partition files workers = .ok batches) : (batches.length : Int) ≤ workers := by
  unfold partition at cut
  split at cut
  · cases cut
  · next staffed =>
    obtain rfl := Except.ok.inj cut
    obtain ⟨n, rfl⟩ := Int.eq_ofNat_of_zero_le (show 0 ≤ workers by omega)
    have staffed : 0 < n := by omega
    refine Int.ofNat_le.mpr ?_
    rw [Int.toNat_natCast]
    rcases Nat.eq_zero_or_pos files.length with none' | some'
    · rw [List.length_eq_zero_iff.mp none', pieces]
      exact Nat.zero_le n
    · have positive : 0 < batchSize files.length n := Nat.div_pos (by omega) staffed
      have few := length_pieces_mul_lt positive files
      have size : batchSize files.length n = (files.length - 1) / n + 1 := by
        rw [batchSize, ← Nat.add_div_right _ staffed]
        congr 1
        omega
      have enough : files.length - 1 < n * batchSize files.length n := by
        rw [size]
        exact Nat.lt_mul_div_succ _ staffed
      refine Nat.le_of_lt_succ (Nat.lt_of_mul_lt_mul_right (a := batchSize files.length n) ?_)
      rw [Nat.succ_mul]
      omega

theorem length_partitionFor_le {β : Type} {files : List β} {workers : Value} {n : Int}
    (counts : workers.number? = some (.whole n)) {batches : List (List β)}
    (cut : partitionFor files workers = .ok batches) : (batches.length : Int) ≤ n := by
  cases workers with
  | int m =>
    cases counts
    exact length_partition_le cut
  | bool b =>
    cases b with
    | true =>
      cases counts
      exact length_partition_le cut
    | false => cases cut
  | _ => cases counts

/-- Where neither memory nor time runs out, files one by one come to one result more than
the limit allows at most, and so does each batch. The batches are no more than the
workers. -/
theorem results_within_limit {m : Monitor} {l : Limits} {most : Nat} {g : Gauges}
    (bounded : m.bounds = .bounded l) (allows : l.AllowsFiles most)
    (unhurried : m.Unhurried g) (work : String → Attempt α) (files : List String) :
    (∀ e, (sequential m.watch work files g).outcome = .ok e →
      e.results = successes work files ∧ e.results.length ≤ most + 1) ∧
    ∀ order workers e, (parallel order m.watch work files workers g).outcome = .ok e →
      ∃ batches, partitionFor files workers = .ok batches ∧
        e.results = batches.flatMap (fun files => (successes work files).take (most + 1)) ∧
        e.results.length ≤ batches.length * (most + 1) ∧
        ∀ n, workers.number? = some (.whole n) → (batches.length : Int) ≤ n := by
  have counts := Monitor.watch_counts bounded allows unhurried
  refine ⟨fun e => sequential_limited counts, fun order workers e ended => ?_⟩
  obtain ⟨batches, cut, brought⟩ := parallel_limited counts (.refl g) ended
  refine ⟨batches, cut, brought, ?_, fun n whole => length_partitionFor_le whole cut⟩
  rw [brought]
  exact length_flatMap_take _ _ _

/-- One file, and more memory and time than are ever used. -/
def oneFile : Limits where
  memory := .whole 500
  files := .whole 1
  time := .whole 10
  memory_open := rfl
  files_open := rfl
  time_open := rfl

def singleFile : Monitor := ⟨.bounded oneFile, .int 0, ⟨52428800, .int 0⟩⟩

theorem singleFile_unhurried : singleFile.Unhurried .still := by
  intro n t later limit detail told
  obtain ⟨s, taken, told⟩ := Monitor.check_standing rfl told
  have snapshot : s = ⟨52428800, .int 0⟩ := by
    simp only [Snapshot.take, Gauges.readMemory, Gauges.readClock, Gauge.read, later.memory,
      later.clock] at taken
    exact (Except.ok.inj taken).symm
  subst snapshot
  rcases Monitor.standing_cases told with
    ⟨ceiling, _, memory, beyond, _⟩ | ⟨_, _, found⟩ | ⟨_, ⟨elapsed, _, passed, beyond, _⟩ | none'⟩
  · obtain rfl := Except.ok.inj memory
    exact absurd beyond (by decide)
  · cases found
    rfl
  · obtain rfl := Except.ok.inj passed
    exact absurd beyond (by decide)
  · exact absurd rfl (none' limit detail)

theorem eq_ok_of_results {o : Outcome (Execution α)} {results : List α}
    (brought : o.toOption.map Execution.results = some results) :
    ∃ e, o = .ok e ∧ e.results = results := by
  cases o with
  | error e => cases brought
  | ok e => exact ⟨e, rfl, Option.some.inj brought⟩

/-- Two files in a row. -/
theorem sequential_singleFile : ∃ e,
    (sequential singleFile.watch Attempt.pure ["a.md", "b.md"] .still).outcome = .ok e ∧
    e.results = ["a.md", "b.md"] :=
  eq_ok_of_results (by decide +kernel)

/-- Four files in two batches. -/
theorem parallel_singleFile : ∃ e,
    (parallel Pool.oldestFirst singleFile.watch Attempt.pure ["a.md", "b.md", "c.md", "d.md"]
      (.int 2) .still).outcome = .ok e ∧
    e.results = ["a.md", "b.md", "c.md", "d.md"] :=
  eq_ok_of_results (by decide +kernel)

theorem results_within_limit_single :
    (∃ e, (sequential singleFile.watch Attempt.pure ["a.md", "b.md"] .still).outcome = .ok e ∧
      e.results.length ≤ 1 + 1) ∧
    ∃ e, (parallel Pool.oldestFirst singleFile.watch Attempt.pure
        ["a.md", "b.md", "c.md", "d.md"] (.int 2) .still).outcome = .ok e ∧
      ∃ batches, partitionFor ["a.md", "b.md", "c.md", "d.md"] (.int 2) = .ok batches ∧
        e.results.length ≤ batches.length * (1 + 1) ∧ batches.length ≤ 2 := by
  have within := results_within_limit (m := singleFile) rfl
    (Limits.allowsFiles_whole (l := oneFile) rfl) singleFile_unhurried Attempt.pure
  obtain ⟨e, row, _⟩ := sequential_singleFile
  obtain ⟨e', batched, _⟩ := parallel_singleFile
  obtain ⟨batches, cut, _, few, staffed⟩ :=
    (within ["a.md", "b.md", "c.md", "d.md"]).2 _ _ e' batched
  exact ⟨⟨e, row, ((within ["a.md", "b.md"]).1 e row).2⟩,
    e', batched, batches, cut, few, Int.ofNat_le.mp (staffed 2 rfl)⟩

/-- With a limit of one file, two files in a row come through, and four in two batches. -/
theorem results_over_limit :
    singleFile.bounds = .bounded oneFile ∧ oneFile.files = .whole 1 ∧
    singleFile.Unhurried .still ∧
    (∃ e, (sequential singleFile.watch Attempt.pure ["a.md", "b.md"] .still).outcome = .ok e ∧
      1 < e.results.length) ∧
    ∃ e, (parallel Pool.oldestFirst singleFile.watch Attempt.pure
        ["a.md", "b.md", "c.md", "d.md"] (.int 2) .still).outcome = .ok e ∧
      1 < e.results.length := by
  obtain ⟨e, row, two⟩ := sequential_singleFile
  obtain ⟨e', batched, four⟩ := parallel_singleFile
  refine ⟨rfl, rfl, singleFile_unhurried, ⟨e, row, ?_⟩, e', batched, ?_⟩
  · rw [two]
    decide
  · rw [four]
    decide

end Execution
end Quire
