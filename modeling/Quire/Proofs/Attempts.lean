import Quire.Proofs.Recovery

/-! Which files are attempted under a monitor that may answer at any check that a bound is
exceeded. Of each batch it is the files before the first such answer, and so it is of files
one by one; what is brought in and what is passed over are these files and no others. The
answer ends the batch with one more fault, and ends a run of files one by one altogether. -/

namespace Quire

/-- A watch that has an answer whenever it is looked at, whatever the answer is. -/
structure Watch.Answers {σ : Type} (w : Watch σ) : Prop where
  check : ∀ n s, ∃ standing t, w.check n s = (.ok standing, t)
  growth : ∀ n s, ∃ message t, w.growth n s = (.ok message, t)

namespace Execution

variable {σ α : Type} {w : Watch σ} {work : String → Attempt α}

/-- What the work on a file brings in. -/
def brought (work : String → Attempt α) (path : String) : Option α := (work path).result.toOption

/-- What a file is passed over for: a fault as it is, anything else wrapped with the path. -/
def lost (work : String → Attempt α) (path : String) : Option Fault :=
  match (work path).result with
  | .ok _ => none
  | .error e => some (e.toFault (some path))

theorem brought_of_ok {path : String} {x : α} (made : (work path).result = .ok x) :
    brought work path = some x ∧ lost work path = none := by
  simp [brought, lost, made, Except.toOption]

theorem brought_of_error {path : String} {e : Failure} (made : (work path).result = .error e) :
    brought work path = none ∧ lost work path = some (e.toFault (some path)) := by
  simp [brought, lost, made, Except.toOption]

theorem failures_eq (work : String → Attempt α) (files : List String) :
    failures work files = files.filterMap (lost work) := by
  refine List.filterMap_congr fun path _ => ?_
  cases made : (work path).result with
  | ok x =>
    rw [tryFile_of_ok made, (brought_of_ok made).2]
    rfl
  | error e =>
    rw [tryFile_of_error made, (brought_of_error made).2]
    rfl

/-- Each file is brought in or lost, and not both. -/
theorem length_brought_add_lost (work : String → Attempt α) (files : List String) :
    (files.filterMap (brought work)).length + (files.filterMap (lost work)).length =
      files.length := by
  induction files with
  | nil => rfl
  | cons path paths ih =>
    cases made : (work path).result with
    | ok x =>
      obtain ⟨here, nothing⟩ := brought_of_ok made
      rw [List.filterMap_cons_some here, List.filterMap_cons_none nothing, List.length_cons,
        List.length_cons]
      omega
    | error e =>
      obtain ⟨nothing, here⟩ := brought_of_error made
      rw [List.filterMap_cons_some here, List.filterMap_cons_none nothing, List.length_cons,
        List.length_cons]
      omega

/-- What is noted once a file is done with, and the state that this leaves. -/
abbrev Aside (σ : Type) := Nat → Bool → σ → List Note × σ

/-- In a batch there is nothing to look at between two files. -/
def noAside : Aside σ := fun _ _ s => ([], s)

/-- One by one, the growth of memory is looked at. -/
def growthAside (w : Watch σ) : Aside σ := fun count came s =>
  ((growthNotes w count came s).1, (growthNotes w count came s).2.2)

/-- Files attempted in their order from a count of results and a state to others, each after a
check that answers that it may be, with what is noted on the way. -/
inductive Passes (w : Watch σ) (work : String → Attempt α) (approach : String) (aside : Aside σ) :
    Nat → σ → List String → List Note → Nat → σ → Prop
  | nil {n : Nat} {s : σ} : Passes w work approach aside n s [] [] n s
  | cons {n m : Nat} {s t u : σ} {standing : Standing} {path : String} {paths : List String}
      {notes : List Note} (checked : w.check n s = (.ok standing, t))
      (inside : ∀ limit detail, standing ≠ .exceeded limit detail)
      (next : Passes w work approach aside (n + (brought work path).isSome.toNat)
        (aside (n + (brought work path).isSome.toNat) (brought work path).isSome t).2
        paths notes m u) :
      Passes w work approach aside n s (path :: paths)
        (standingNotes approach standing ++ (tryFile work path).1 ++
          (aside (n + (brought work path).isSome.toNat) (brought work path).isSome t).1 ++ notes)
        m u

/-- The file before which the answer was that a bound is exceeded, and that bound. -/
structure Stop where
  path : String
  limit : String
  detail : String

/-- How it comes to an end: no file is left, or the check before the next one answers that a bound
is exceeded. -/
inductive Halts (w : Watch σ) (n : Nat) (s : σ) : List String → Option Stop → σ → Prop
  | through : Halts w n s [] none s
  | stopped {t : σ} {path limit detail : String} {later : List String}
      (checked : w.check n s = (.ok (.exceeded limit detail), t)) :
      Halts w n s (path :: later) (some ⟨path, limit, detail⟩) t

theorem isOk_tryFile (work : String → Attempt α) (path : String) :
    (tryFile work path).2.isOk = (brought work path).isSome := by
  cases made : (work path).result with
  | ok x =>
    rw [tryFile_of_ok made, (brought_of_ok made).1]
    rfl
  | error e =>
    rw [tryFile_of_error made, (brought_of_error made).1]
    rfl

theorem length_add (done : Execution α) (work : String → Attempt α) (path : String) :
    (done.add (tryFile work path).2).results.length =
      done.results.length + (brought work path).isSome.toNat := by
  rw [← isOk_tryFile]
  cases (tryFile work path).2 <;> simp [add, Except.isOk, Except.toBool]

/-- The count at the end is that of all results. -/
theorem Passes.count {approach : String} {aside : Aside σ} {n m : Nat} {s t : σ}
    {files : List String} {notes : List Note}
    (passes : Passes w work approach aside n s files notes m t) :
    m = n + (files.filterMap (brought work)).length := by
  induction passes with
  | nil => rfl
  | @cons n m s t u standing path paths notes _ _ _ ih =>
    rw [ih]
    cases here : brought work path with
    | none => simp [here]
    | some x =>
      simp only [List.filterMap_cons, here, List.length_cons]
      exact Nat.add_right_comm n 1 _

theorem Passes.length_through {approach : String} {aside : Aside σ} {n m : Nat} {s t : σ}
    {files : List String} {notes : List Note}
    (passes : Passes w work approach aside n s files notes m t) {done : Execution α}
    (count : done.results.length = n) : (through work done files).results.length = m := by
  rw [passes.count, through, List.length_append, count, successes_eq]
  rfl

/-- Whatever the answers are, files are attempted up to some place and no further. -/
theorem exists_halts (answers : w.Answers) (work : String → Attempt α) (approach : String)
    (aside : Aside σ) (n : Nat) (s : σ) (files : List String) :
    ∃ attempted rest notes m t stop u, files = attempted ++ rest ∧
      Passes w work approach aside n s attempted notes m t ∧ Halts w m t rest stop u := by
  induction files generalizing n s with
  | nil => exact ⟨[], [], [], n, s, none, s, rfl, .nil, .through⟩
  | cons path paths ih =>
    obtain ⟨standing, t, checked⟩ := answers.check n s
    by_cases beyond : ∃ limit detail, standing = .exceeded limit detail
    · obtain ⟨limit, detail, rfl⟩ := beyond
      exact ⟨[], path :: paths, [], n, s, _, t, rfl, .nil, .stopped checked⟩
    · obtain ⟨attempted, rest, notes, m, t', stop, u, rfl, passes, halts⟩ :=
        ih (n + (brought work path).isSome.toNat)
          (aside (n + (brought work path).isSome.toNat) (brought work path).isSome t).2
      exact ⟨path :: attempted, rest, _, m, t', stop, u, rfl,
        .cons checked (fun limit detail same => beyond ⟨limit, detail, same⟩) passes, halts⟩

/-! ### In batches -/

def approachIn (index : Nat) : String := s!"Approaching memory limit in batch {index + 1}"

/-- What the stop of a batch is noted as. -/
def Stop.noteIn (index : Nat) (e : Stop) : Note :=
  ⟨.warning, s!"Batch {index + 1} stopped: " ++ (if e.detail = "" then e.limit else e.detail)⟩

/-- What a batch that is stopped has as its last fault. -/
def Stop.faultIn (index : Nat) (e : Stop) : Fault :=
  exceededBounds e.limit e.path [("batch", .int index)]

theorem goBatch_passes {index n m : Nat} {s t : σ} {files : List String} {notes : List Note}
    (passes : Passes w work (approachIn index) noAside n s files notes m t) (rest : List String)
    {done : Execution α} (count : done.results.length = n) :
    goBatch w work index done s (files ++ rest) =
      Trace.after notes (goBatch w work index (through work done files) t rest) := by
  induction passes generalizing done with
  | nil => rw [through_nil]; rfl
  | @cons n m s t u standing path paths notes checked inside next ih =>
    have step : goBatch w work index done s (path :: (paths ++ rest)) =
        Trace.after (standingNotes (approachIn index) standing ++ (tryFile work path).1)
          (goBatch w work index (done.add (tryFile work path).2) t (paths ++ rest)) := by
      rw [goBatch, count, checked]
      cases standing with
      | exceeded limit detail => exact absurd rfl (inside limit detail)
      | within => rfl
      | approaching ratio => rfl
    have counted : (done.add (tryFile work path).2).results.length =
        n + (brought work path).isSome.toNat := by rw [length_add, count]
    have later := ih counted
    dsimp only [noAside] at later ⊢
    rw [List.cons_append, step, later, through_cons]
    simp [Trace.after]

theorem goBatch_halts {index m : Nat} {t u : σ} {rest : List String} {stop : Option Stop}
    (halts : Halts w m t rest stop u) (work : String → Attempt α) {done : Execution α}
    (count : done.results.length = m) :
    goBatch w work index done t rest = ⟨(stop.map (Stop.noteIn index)).toList,
      .ok { done with errors := done.errors ++ (stop.map (Stop.faultIn index)).toList }, u⟩ := by
  cases halts with
  | through => simp [goBatch]
  | stopped checked =>
    rw [goBatch, count, checked]
    rfl

/-! ### One by one -/

def approachAlone : String := "Approaching memory limit"

/-- What a run that is stopped ends with. -/
def Stop.faultAfter (count : Nat) (e : Stop) : Fault :=
  exceededBounds e.limit e.path [("processed", .int count)]

theorem growthNotes_answers (answers : w.Answers) (count : Nat) (came : Bool) (s : σ) :
    growthNotes w count came s =
      ((growthAside w count came s).1, .ok (), (growthAside w count came s).2) := by
  unfold growthAside growthNotes
  split
  · obtain ⟨message, t, looked⟩ := answers.growth count s
    rw [looked]
    cases message <;> rfl
  · rfl

theorem goSequential_passes (answers : w.Answers) {n m : Nat} {s t : σ} {files : List String}
    {notes : List Note}
    (passes : Passes w work approachAlone (growthAside w) n s files notes m t)
    (rest : List String) {done : Execution α} (count : done.results.length = n) :
    goSequential w work done s (files ++ rest) =
      Trace.after notes (goSequential w work (through work done files) t rest) := by
  induction passes generalizing done with
  | nil => rw [through_nil]; rfl
  | @cons n m s t u standing path paths notes checked inside next ih =>
    have step : goSequential w work done s (path :: (paths ++ rest)) =
        Trace.after (standingNotes approachAlone standing ++ (tryFile work path).1 ++
            (growthAside w (n + (brought work path).isSome.toNat) (brought work path).isSome t).1)
          (goSequential w work (done.add (tryFile work path).2)
            (growthAside w (n + (brought work path).isSome.toNat) (brought work path).isSome t).2
            (paths ++ rest)) := by
      rw [goSequential, count, checked]
      simp only [growthNotes_answers answers, length_add, count, isOk_tryFile]
      cases standing with
      | exceeded limit detail => exact absurd rfl (inside limit detail)
      | within => rfl
      | approaching ratio => rfl
    rw [List.cons_append, step, ih (by rw [length_add, count]), through_cons]
    simp [Trace.after]

theorem goSequential_halts {m : Nat} {t u : σ} {rest : List String} {stop : Option Stop}
    (halts : Halts w m t rest stop u) (work : String → Attempt α) {done : Execution α}
    (count : done.results.length = m) :
    goSequential w work done t rest =
      ⟨[], match stop with
        | some e => .error (.fault (e.faultAfter m))
        | none => .ok done, u⟩ := by
  cases halts with
  | through => rfl
  | stopped checked =>
    rw [goSequential, count, checked]
    rfl

/-! ### Accounts -/

/-- How a run ends that has gone through its files: with its first fault where there are faults
and no result, and with all of them otherwise. -/
def Settles (done : Execution α) (outcome : Outcome (Execution α)) : Prop :=
  (done.results = [] ∧ ∃ f others, done.errors = f :: others ∧ outcome = .error (.fault f)) ∨
    (done.results ≠ [] ∨ done.errors = []) ∧ outcome = .ok done

theorem settles_survived (done : Execution α) : Settles done (survived done).result := by
  obtain ⟨results, errors, batches⟩ := done
  cases results with
  | cons x xs => exact .inr ⟨.inl (List.cons_ne_nil x xs), rfl⟩
  | nil =>
    cases errors with
    | nil => exact .inr ⟨.inr rfl, rfl⟩
    | cons f others => exact .inl ⟨rfl, f, others, rfl, rfl⟩

/-- What becomes of one batch: the files attempted are its first ones, and a check that answers
that a bound is exceeded adds a fault for the file it was made for. -/
def BatchEnds (w : Watch σ) (work : String → Attempt α) (index : Nat) (files : List String)
    (s : σ) (t : Trace σ (Execution α)) : Prop :=
  ∃ attempted rest notes m mid stop first, files = attempted ++ rest ∧
    Passes w work (approachIn index) noAside 0 s attempted notes m mid ∧
    Halts w m mid rest stop t.state ∧
    t.notes = first :: notes ++ (stop.map (Stop.noteIn index)).toList ∧
    t.outcome = .ok
      { results := attempted.filterMap (brought work)
        errors := attempted.filterMap (lost work) ++ (stop.map (Stop.faultIn index)).toList
        batches := 1 }

/-- What becomes of all batches, each in the state that the one before it left. -/
inductive BatchesEnd (w : Watch σ) (work : String → Attempt α) :
    List (List String × Nat) → σ → List (Trace σ (Execution α)) → σ → Prop
  | nil {s : σ} : BatchesEnd w work [] s [] s
  | cons {index : Nat} {files : List String} {others : List (List String × Nat)} {s u : σ}
      {t : Trace σ (Execution α)} {ts : List (Trace σ (Execution α))}
      (here : BatchEnds w work index files s t) (later : BatchesEnd w work others t.state ts u) :
      BatchesEnd w work ((files, index) :: others) s (t :: ts) u

theorem batch_ends (answers : w.Answers) (work : String → Attempt α) (total index : Nat)
    (files : List String) (s : σ) :
    BatchEnds w work index files s (batch w work total index files s) := by
  obtain ⟨attempted, rest, notes, m, mid, stop, u, rfl, passes, halts⟩ :=
    exists_halts answers work (approachIn index) noAside 0 s files
  have none' : ({ batches := 1 } : Execution α).results.length = 0 := rfl
  have went := goBatch_passes passes rest none'
  rw [goBatch_halts halts work (passes.length_through rfl)] at went
  rw [batch, went]
  refine ⟨attempted, rest, notes, m, mid, stop, _, rfl, passes, halts, rfl, ?_⟩
  simp only [Trace.after, through, List.nil_append, successes_eq, failures_eq]
  rfl

theorem runAll_ends (answers : w.Answers) (work : String → Attempt α) (total : Nat)
    (numbered : List (List String × Nat)) (s : σ) :
    BatchesEnd w work numbered s (runAll w work total numbered s).1
      (runAll w work total numbered s).2 := by
  induction numbered generalizing s with
  | nil => exact .nil
  | cons b numbered ih => exact .cons (batch_ends answers work total b.2 b.1 s) (ih _)

theorem BatchesEnd.outcomes {numbered : List (List String × Nat)} {s u : σ}
    {parts : List (Trace σ (Execution α))} (ends : BatchesEnd w work numbered s parts u) :
    ∃ values : List (Execution α), parts.map Trace.outcome = values.map .ok := by
  induction ends with
  | nil => exact ⟨[], rfl⟩
  | cons here _ ih =>
    obtain ⟨values, others⟩ := ih
    obtain ⟨_, _, _, _, _, _, _, _, _, _, _, came⟩ := here
    exact ⟨_ :: values, congrArg₂ List.cons came others⟩

/-- Files in batches, whichever finish first, each of them going as far as its checks let it. -/
theorem parallel_accounts (answers : w.Answers) (order : Pool.Finishing) (work : String → Attempt α)
    {files : List String} {workers : Value} (staffed : workers.Staffs) (s : σ) :
    ∃ batches parts u values, partitionFor files workers = .ok batches ∧ batches.flatten = files ∧
      BatchesEnd w work batches.zipIdx s parts u ∧
      parts.map Trace.outcome = values.map .ok ∧
      parts.flatMap Trace.notes <:+: (parallel order w work files workers s).notes ∧
      Settles (joined values) (parallel order w work files workers s).outcome := by
  obtain ⟨n, counts, positive⟩ := staffed
  obtain ⟨size, cut⟩ := partitionFor_whole counts positive files
  have joins := pieces_flatten size files
  unfold parallel
  rw [cut]
  generalize pieces size files = batches at joins ⊢
  cases batches with
  | nil => exact ⟨[], [], s, [], rfl, joins, .nil, rfl, List.nil_infix, .inr ⟨.inr rfl, rfl⟩⟩
  | cons first others =>
    have ends := runAll_ends answers work (first :: others).length (first :: others).zipIdx s
    obtain ⟨values, came⟩ := ends.outcomes
    have some : values ≠ [] := by
      rintro rfl
      cases came
    have put := collected_ok order some came
    refine ⟨_, _, _, values, rfl, joins, ends, came, ?_, ?_⟩
    · simp only [closed, Trace.after, put, List.append_nil]
      exact ⟨[created (first :: others) files.length], _, rfl⟩
    · dsimp only
      rw [closed_outcome "Parallel" put]
      exact settles_survived _

/-- Files one by one, as far as the checks let them come. -/
theorem sequential_accounts (answers : w.Answers) (work : String → Attempt α)
    (files : List String) (s : σ) :
    ∃ attempted rest notes m mid stop u, files = attempted ++ rest ∧
      Passes w work approachAlone (growthAside w) 0 s attempted notes m mid ∧
      Halts w m mid rest stop u ∧ m = (attempted.filterMap (brought work)).length ∧
      (∀ e, stop = some e →
        sequential w work files s = ⟨notes, .error (.fault (e.faultAfter m)), u⟩) ∧
      (stop = none → attempted = files ∧ notes <+: (sequential w work files s).notes ∧
        ∃ done, done.results = files.filterMap (brought work) ∧
          done.errors = files.filterMap (lost work) ∧
          done.results.length + done.errors.length = files.length ∧
          Settles done (sequential w work files s).outcome) := by
  obtain ⟨attempted, rest, notes, m, mid, stop, u, rfl, passes, halts⟩ :=
    exists_halts answers work approachAlone (growthAside w) 0 s files
  have none' : ({ batches := if (attempted ++ rest).isEmpty then 0 else 1 } :
      Execution α).results.length = 0 := rfl
  have went := goSequential_passes answers passes rest none'
  rw [goSequential_halts halts work (passes.length_through rfl)] at went
  refine ⟨attempted, rest, notes, m, mid, stop, u, rfl, passes, halts, by simpa using passes.count,
    ?_, ?_⟩
  · rintro e rfl
    rw [sequential, went]
    simp [closed, Trace.after]
  · rintro rfl
    obtain rfl : rest = [] := by
      cases halts
      rfl
    rw [sequential, went, List.append_nil]
    refine ⟨rfl, ?_, through work { batches := _ } attempted, successes_eq work attempted,
      failures_eq work attempted, ?_, settles_survived _⟩
    · simp only [closed, Trace.after, List.append_nil]
      exact List.prefix_append _ _
    · simp only [through, List.nil_append, successes_eq, failures_eq]
      exact length_brought_add_lost work attempted

theorem Settles.bounds {done : Execution α} {outcome : Outcome (Execution α)}
    (settles : Settles done outcome) :
    (∃ f, outcome = .error (.fault f) ∧ f.kind = .bounds) ↔
      done.results = [] ∧ ∃ f, done.errors.head? = some f ∧ f.kind = .bounds := by
  rcases settles with ⟨none', f, others, told, rfl⟩ | ⟨some', rfl⟩
  · rw [told]
    constructor
    · rintro ⟨f', same, kind⟩
      cases same
      exact ⟨none', f, rfl, kind⟩
    · rintro ⟨_, f', same, kind⟩
      cases same
      exact ⟨f, rfl, kind⟩
  · refine ⟨nofun, ?_⟩
    rintro ⟨none', f, first, _⟩
    rcases some' with some' | nothing
    · exact absurd none' some'
    · rw [nothing] at first
      cases first

/-- Under a watch that always has an answer each file is accounted for. In batches, of which none
makes a difference to the others, the files attempted are the first ones of each batch, and what
is left of it is left for a check that answered that a bound is exceeded. One by one such an answer
ends the run with the file it was given for and the count of results before. A run that is not
ended so fails with its first fault where it has faults and no result; so it ends with a bound that
is exceeded where a check says so, or where the first fault of a file is of this kind and there is
no result. -/
theorem files_accounted (answers : w.Answers) (work : String → Attempt α) (files : List String)
    (s : σ) :
    (∀ order (workers : Value), workers.Staffs → ∃ batches parts u values,
      partitionFor files workers = .ok batches ∧ batches.flatten = files ∧
      BatchesEnd w work batches.zipIdx s parts u ∧
      parts.map Trace.outcome = values.map .ok ∧
      parts.flatMap Trace.notes <:+: (parallel order w work files workers s).notes ∧
      Settles (joined values) (parallel order w work files workers s).outcome) ∧
    ∃ attempted rest notes m mid stop u, files = attempted ++ rest ∧
      Passes w work approachAlone (growthAside w) 0 s attempted notes m mid ∧
      Halts w m mid rest stop u ∧ m = (attempted.filterMap (brought work)).length ∧
      (∀ e, stop = some e →
        sequential w work files s = ⟨notes, .error (.fault (e.faultAfter m)), u⟩) ∧
      (stop = none → attempted = files ∧ notes <+: (sequential w work files s).notes ∧
        ∃ done, done.results = files.filterMap (brought work) ∧
          done.errors = files.filterMap (lost work) ∧
          done.results.length + done.errors.length = files.length ∧
          Settles done (sequential w work files s).outcome) ∧
      ((∃ f, (sequential w work files s).outcome = .error (.fault f) ∧ f.kind = .bounds) ↔
        stop ≠ none ∨ files.filterMap (brought work) = [] ∧
          ∃ f, (files.filterMap (lost work)).head? = some f ∧ f.kind = .bounds) := by
  refine ⟨fun order workers staffed => parallel_accounts answers order work staffed s, ?_⟩
  obtain ⟨attempted, rest, notes, m, mid, stop, u, whole, passes, halts, count, stopped, gone⟩ :=
    sequential_accounts answers work files s
  refine ⟨attempted, rest, notes, m, mid, stop, u, whole, passes, halts, count, stopped, gone, ?_⟩
  cases stop with
  | some e =>
    rw [stopped e rfl]
    exact ⟨fun _ => .inl nofun, fun _ => ⟨_, rfl, rfl⟩⟩
  | none =>
    obtain ⟨_, _, done, results, errors, _, settles⟩ := gone rfl
    rw [settles.bounds, results, errors]
    exact ⟨.inr, fun either => either.resolve_left (fun some' => some' rfl)⟩

/-- A watch that gives answers out in order, and has no complaint after the last. -/
def script : Watch (List Standing) where
  check _ s :=
    match s with
    | [] => (.ok .within, [])
    | answer :: rest => (.ok answer, rest)
  growth _ s := (.ok none, s)

theorem script_answers : script.Answers where
  check _ s := by cases s <;> exact ⟨_, _, rfl⟩
  growth _ s := ⟨none, s, rfl⟩

/-- Work that comes to the path itself, but for one file that has another sort of trouble. -/
def copyAllBut (bad path : String) : Attempt String :=
  if path = bad then Attempt.fail (.mishap (.badValue "bad")) else Attempt.pure path

/-- A batch that is stopped after a failure and one that is not, and the same files one by one. -/
theorem files_accounted_script :
    script.Answers ∧ (Value.int 2).Staffs ∧
    (∃ batches parts u values,
      partitionFor ["a.md", "b.md", "c.md", "d.md"] (.int 2) = .ok batches ∧
      BatchesEnd script (copyAllBut "a.md") batches.zipIdx [.within, .exceeded "time" ""] parts u ∧
      parts.map Trace.outcome = values.map .ok ∧
      Settles (joined values) (parallel Pool.oldestFirst script (copyAllBut "a.md")
        ["a.md", "b.md", "c.md", "d.md"] (.int 2) [.within, .exceeded "time" ""]).outcome) ∧
    ∃ attempted rest notes m mid stop u, ["a.md", "b.md"] = attempted ++ rest ∧
      Passes script (copyAllBut "a.md") approachAlone (growthAside script) 0
        [.within, .exceeded "time" ""] attempted notes m mid ∧
      Halts script m mid rest stop u ∧ stop ≠ none := by
  have staffed : (Value.int 2).Staffs := ⟨2, rfl, by decide⟩
  obtain ⟨batched, _⟩ := files_accounted script_answers (copyAllBut "a.md")
    ["a.md", "b.md", "c.md", "d.md"] [.within, .exceeded "time" ""]
  obtain ⟨batches, parts, u, values, cut, _, ends, came, _, settles⟩ :=
    batched Pool.oldestFirst (.int 2) staffed
  obtain ⟨_, attempted, rest, notes, m, mid, stop, u', whole, passes, halts, _, _, _, raised⟩ :=
    files_accounted script_answers (copyAllBut "a.md") ["a.md", "b.md"]
      [.within, .exceeded "time" ""]
  have stopped := raised.mp ⟨_, rfl, rfl⟩
  have results : ["a.md", "b.md"].filterMap (brought (copyAllBut "a.md")) ≠ [] := by
    with_unfolding_all decide
  exact ⟨script_answers, staffed, ⟨batches, parts, u, values, cut, ends, came, settles⟩,
    attempted, rest, notes, m, mid, stop, u', whole, passes, halts,
    stopped.resolve_right fun other => results other.1⟩

/-- A file may itself be passed over for a bound that is exceeded, and nothing else come through:
then a run ends so though no check ever answers that a bound is. -/
theorem sequential_unstopped :
    (∃ f, (sequential (Monitor.watch ⟨.unbounded, .int 0, ⟨1048576, .int 0⟩⟩)
        (fun _ => (Attempt.fail (.fault { kind := .bounds, message := "full", path := some "a.md" })
          : Attempt String)) ["a.md"] .still).outcome = .error (.fault f) ∧ f.kind = .bounds) ∧
      ∀ n g limit detail, ((Monitor.watch ⟨.unbounded, .int 0, ⟨1048576, .int 0⟩⟩).check n g).1 ≠
        .ok (.exceeded limit detail) := by
  refine ⟨⟨_, rfl, rfl⟩, ?_⟩
  intro n g limit detail told
  simp only [Monitor.watch, Monitor.check] at told
  rcases taken : (Snapshot.take g).1 with mishap | reading
  all_goals simp [taken, Except.bind, Except.map] at told

end Execution
end Quire
