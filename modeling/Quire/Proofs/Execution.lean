import Quire.Execution
import Quire.Proofs.Pool

/-! Files one by one and files in batches, under a watch that never stops them.
Both come to the same results and the same faults, in the order of the files,
whatever the batches are and whichever of them finishes first. -/

namespace Quire

/-- A watch that answers whenever it is looked at, for up to so many results, and
never that a bound is exceeded. -/
structure Watch.Calm {σ : Type} (w : Watch σ) (Sound : σ → Prop) (most : Nat) : Prop where
  check : ∀ n < most, ∀ s, Sound s → ∃ standing after, w.check n s = (.ok standing, after) ∧
    (∀ limit detail, standing ≠ .exceeded limit detail) ∧ Sound after
  growth : ∀ n ≤ most, 0 < n → n % Execution.growthInterval = 0 → ∀ s, Sound s →
    ∃ message after, w.growth n s = (.ok message, after) ∧ Sound after

namespace Execution

variable {σ α : Type} {w : Watch σ} {work : String → Attempt α} {Sound : σ → Prop} {most : Nat}

/-- The results of the files that come through. -/
def successes (work : String → Attempt α) (files : List String) : List α :=
  files.filterMap fun path => (tryFile work path).2.toOption

def fault? (r : Except Fault α) : Option Fault :=
  match r with
  | .ok _ => none
  | .error f => some f

/-- The faults that files are passed over for. -/
def failures (work : String → Attempt α) (files : List String) : List Fault :=
  files.filterMap fun path => fault? (tryFile work path).2

/-- What is done after some more files, where nothing stops them. -/
def through (work : String → Attempt α) (done : Execution α) (files : List String) :
    Execution α where
  results := done.results ++ successes work files
  errors := done.errors ++ failures work files
  batches := done.batches

theorem through_nil (done : Execution α) : through work done [] = done := by
  simp [through, successes, failures]

theorem through_cons (done : Execution α) (path : String) (paths : List String) :
    through work done (path :: paths) = through work (done.add (tryFile work path).2) paths := by
  cases tried : (tryFile work path).2 <;>
    simp [through, successes, failures, add, tried, fault?, Except.toOption]

theorem length_add_le (done : Execution α) (r : Except Fault α) :
    (done.add r).results.length ≤ done.results.length + 1 := by
  cases r <;> simp [add]

theorem length_add_pos {r : Except Fault α} (came : r.isOk = true) (done : Execution α) :
    0 < (done.add r).results.length := by
  cases r with
  | ok x => simp [add]
  | error f => cases came

/-! ### One by one -/

theorem growthNotes_calm (calm : w.Calm Sound most) {count : Nat} {grew : Bool}
    (bound : count ≤ most) (positive : grew = true → 0 < count) {s : σ} (sound : Sound s) :
    ∃ notes after, growthNotes w count grew s = (notes, .ok (), after) ∧ Sound after := by
  unfold growthNotes
  split
  · rename_i due
    obtain ⟨grew, due⟩ : grew = true ∧ count % growthInterval = 0 := by simpa using due
    obtain ⟨message, after, looked, sound⟩ := calm.growth count bound (positive grew) due s sound
    rw [looked]
    cases message with
    | none => exact ⟨_, after, rfl, sound⟩
    | some text => exact ⟨_, after, rfl, sound⟩
  · exact ⟨_, s, rfl, sound⟩

theorem goSequential_calm (calm : w.Calm Sound most) {files : List String} {done : Execution α}
    (bound : done.results.length + files.length ≤ most) {s : σ} (sound : Sound s) :
    (goSequential w work done s files).outcome = .ok (through work done files) := by
  induction files generalizing done s with
  | nil => rw [through_nil]; rfl
  | cons path paths ih =>
    rw [List.length_cons] at bound
    have longer := length_add_le done (tryFile work path).2
    obtain ⟨standing, looked, checked, inside, sound⟩ :=
      calm.check done.results.length (by omega) s sound
    obtain ⟨notes, after, grown, sound⟩ := growthNotes_calm calm
      (show (done.add (tryFile work path).2).results.length ≤ most by omega)
      (fun came => length_add_pos came done) sound
    have rest := ih (show (done.add (tryFile work path).2).results.length + paths.length ≤ most by
      omega) sound
    rw [through_cons]
    unfold goSequential
    rw [checked]
    cases standing with
    | exceeded limit detail => exact absurd rfl (inside limit detail)
    | within =>
      simp only [grown, Trace.after]
      exact rest
    | approaching ratio =>
      simp only [grown, Trace.after]
      exact rest

/-! ### In batches -/

theorem goBatch_calm (calm : w.Calm Sound most) (index : Nat) {files : List String}
    {done : Execution α} (bound : done.results.length + files.length ≤ most) {s : σ}
    (sound : Sound s) :
    (goBatch w work index done s files).outcome = .ok (through work done files) ∧
      Sound (goBatch w work index done s files).state := by
  induction files generalizing done s with
  | nil => exact ⟨by rw [through_nil]; rfl, sound⟩
  | cons path paths ih =>
    rw [List.length_cons] at bound
    have longer := length_add_le done (tryFile work path).2
    obtain ⟨standing, looked, checked, inside, sound⟩ :=
      calm.check done.results.length (by omega) s sound
    have rest := ih (show (done.add (tryFile work path).2).results.length + paths.length ≤ most by
      omega) sound
    rw [through_cons]
    unfold goBatch
    rw [checked]
    cases standing with
    | exceeded limit detail => exact absurd rfl (inside limit detail)
    | within => exact rest
    | approaching ratio => exact rest

/-- All batches go through, each on its own. -/
theorem runAll_calm (calm : w.Calm Sound most) (work : String → Attempt α) (total : Nat)
    (numbered : List (List String × Nat)) (bound : ∀ b ∈ numbered, b.1.length ≤ most) {s : σ}
    (sound : Sound s) :
    (runAll w work total numbered s).1.map Trace.outcome =
      (numbered.map Prod.fst).map fun files => .ok (through work { batches := 1 } files) := by
  induction numbered generalizing s with
  | nil => rfl
  | cons b numbered ih =>
    obtain ⟨files, index⟩ := b
    have fits : ({ batches := 1 } : Execution α).results.length + files.length ≤ most := by
      simpa using bound (files, index) List.mem_cons_self
    obtain ⟨first, sound⟩ := goBatch_calm calm index fits sound
    have rest := ih (fun b member => bound b (List.mem_cons_of_mem _ member)) sound
    simp only [runAll, batch, List.map_cons]
    exact congr (congrArg _ first) rest

theorem pieces_flatten {β : Type} (size : Nat) (xs : List β) : (pieces size xs).flatten = xs := by
  induction xs using pieces.induct size with
  | case1 => simp [pieces]
  | case2 x rest ih =>
    rw [pieces, List.flatten_cons, ih, List.cons_append, List.take_append_drop]

theorem length_le_of_mem_pieces {β : Type} {size : Nat} {xs piece : List β}
    (member : piece ∈ pieces size xs) : piece.length ≤ xs.length := by
  have sub := (List.sublist_flatten_of_mem member).length_le
  rwa [pieces_flatten] at sub

theorem partition_pos {n : Int} (positive : 1 ≤ n) {β : Type} (files : List β) :
    partition files n = .ok (pieces (batchSize files.length n.toNat) files) :=
  if_neg (by omega)

/-- A whole count of workers cuts files into pieces of the size for that count. -/
theorem partitionFor_counts {workers : Value} {n : Int} (counts : workers.number? = some (.whole n))
    (positive : 1 ≤ n) {β : Type} (files : List β) :
    partitionFor files workers = .ok (pieces (batchSize files.length n.toNat) files) := by
  cases workers with
  | int m =>
    cases counts
    exact partition_pos positive files
  | bool b =>
    cases b with
    | true =>
      cases counts
      exact partition_pos (Int.le_refl 1) files
    | false =>
      cases counts
      exact absurd positive (by decide)
  | _ => cases counts

theorem partitionFor_whole {workers : Value} {n : Int} (counts : workers.number? = some (.whole n))
    (positive : 1 ≤ n) {β : Type} (files : List β) :
    ∃ size, partitionFor files workers = .ok (pieces size files) :=
  ⟨_, partitionFor_counts counts positive files⟩

/-! ### Putting the batches together -/

theorem slot_perm {values : Nat → Execution α} {delivered : List (Nat × Execution α)} {count : Nat}
    (perm : delivered.Perm ((List.range count).map fun i => (i, values i))) {i : Nat}
    (bound : i < count) : slot delivered i = values i := by
  have there : (i, values i) ∈ delivered :=
    perm.mem_iff.mpr (List.mem_map_of_mem (List.mem_range.mpr bound))
  unfold slot
  cases found : delivered.lookup i with
  | none =>
    have missing := List.lookup_eq_none_iff.mp found (i, values i) there
    simp at missing
  | some part =>
    obtain ⟨before, after, split, _⟩ := List.lookup_eq_some_iff.mp found
    have member : (i, part) ∈ delivered := by simp [split]
    obtain ⟨j, _, same⟩ := List.mem_map.mp (perm.mem_iff.mp member)
    cases same
    rfl

/-- However the batches finish, their parts are put back in batch order. -/
theorem collected_ok (order : Pool.Finishing) {parts : List (Trace σ (Execution α))}
    {values : List (Execution α)} (some : values ≠ [])
    (whole : parts.map Trace.outcome = values.map .ok) :
    collected order parts = .ok (joined values) := by
  have lengths : parts.length = values.length := by
    simpa using congrArg List.length whole
  have positive := List.length_pos_iff.mpr some
  have works : ∀ i ∈ List.range values.length,
      outcomeOf parts i = .ok (i, (values[i]?).getD {}) := by
    intro i member
    have bound : i < values.length := List.mem_range.mp member
    have there : parts[i]?.map Trace.outcome = Option.some (.ok values[i]) := by
      rw [← List.getElem?_map, whole, List.getElem?_map, List.getElem?_eq_getElem bound]
      rfl
    obtain ⟨part, found, made⟩ := Option.map_eq_some_iff.mp there
    simp [outcomeOf, found, made, Except.map, List.getElem?_eq_getElem bound]
  obtain ⟨results, ran, perm⟩ := Pool.run_ok order
    (p := ⟨values.length, values.length⟩) (by dsimp only; omega) true works
  have slots : (List.range values.length).map (slot results) = values := by
    refine List.ext_getElem (by simp) fun i _ bound => ?_
    rw [List.getElem_map, List.getElem_range, slot_perm perm bound,
      List.getElem?_eq_getElem bound]
    rfl
  simp only [collected, lengths, ran]
  change Except.ok (joined ((List.range values.length).map (slot results))) = _
  rw [slots]

theorem joined_through (batches : List (List String)) :
    joined (batches.map (through work { batches := 1 })) =
      { results := successes work batches.flatten
        errors := failures work batches.flatten
        batches := batches.length } := by
  simp only [joined, List.flatMap_map, List.length_map]
  congr 1
  · simp [through, successes, List.filterMap_flatten, List.flatMap_def]
  · simp [through, failures, List.filterMap_flatten, List.flatMap_def]

/-- What files come to in any way of going through them: the results and the
faults, or the first fault where nothing came through. -/
def comesTo (work : String → Attempt α) (files : List String) : Outcome (List α × List Fault) :=
  match successes work files, failures work files with
  | [], f :: _ => .error (.fault f)
  | results, errors => .ok (results, errors)

/-- The parts of an execution that do not tell how it was done. -/
def fruits (e : Execution α) : List α × List Fault := (e.results, e.errors)

theorem closed_outcome (how : String) {t : Trace σ (Execution α)} {done : Execution α}
    (whole : t.outcome = .ok done) : (closed how t).outcome = (survived done).result := by
  simp only [closed, whole]

theorem survived_fruits (files : List String) (batches : Nat) :
    (survived ⟨successes work files, failures work files, batches⟩).result.map fruits =
      comesTo work files := by
  unfold comesTo survived
  cases results : successes work files with
  | nil =>
    cases errors : failures work files with
    | nil => rfl
    | cons f fs => rfl
  | cons r rs => rfl

theorem sequential_calm {files : List String} (calm : w.Calm Sound files.length) {s : σ}
    (sound : Sound s) : (sequential w work files s).outcome.map fruits = comesTo work files := by
  have fits : ({ batches := if files.isEmpty then 0 else 1 } : Execution α).results.length
      + files.length ≤ files.length := by simp
  rw [sequential, closed_outcome _ (goSequential_calm calm fits sound)]
  simp only [through, List.nil_append]
  exact survived_fruits files _

theorem parallel_calm (order : Pool.Finishing) {files : List String}
    (calm : w.Calm Sound files.length) {workers : Value} {n : Int}
    (counts : workers.number? = some (.whole n)) (positive : 1 ≤ n) {s : σ} (sound : Sound s) :
    (parallel order w work files workers s).outcome.map fruits = comesTo work files := by
  obtain ⟨size, cut⟩ := partitionFor_whole counts positive files
  have joins := pieces_flatten size files
  have bound : ∀ piece ∈ pieces size files, piece.length ≤ files.length :=
    fun piece member => length_le_of_mem_pieces member
  unfold parallel
  rw [cut]
  -- from here on it does not matter how the files were cut
  generalize pieces size files = batches at joins bound ⊢
  cases batches with
  | nil =>
    subst joins
    rfl
  | cons first others =>
    have all := runAll_calm calm work (first :: others).length (first :: others).zipIdx
      (fun b member => bound b.1 (List.fst_mem_of_mem_zipIdx member)) sound
    rw [List.zipIdx_map_fst, ← Function.comp_def, ← List.map_map] at all
    have parts := collected_ok order (by simp) all
    rw [joined_through, joins] at parts
    dsimp only
    rw [closed_outcome _ parts]
    exact survived_fruits files _

end Execution
end Quire
