import Quire.Proofs.FileLimit

/-! Going through files twice. Where the watch answers alike at both times and the work on
each file comes to the same, so does the whole, however it is gone through. The work may
even differ on files of which the first run tells that it did not get to do it. -/

namespace Quire

/-- A watch that answers alike in two states that are alike, and leaves them alike. -/
structure Watch.Alike {σ : Type} (w : Watch σ) (R : σ → σ → Prop) : Prop where
  check : ∀ n s t, R s t → (w.check n s).1 = (w.check n t).1 ∧ R (w.check n s).2 (w.check n t).2
  growth : ∀ n s t, R s t →
    (w.growth n s).1 = (w.growth n t).1 ∧ R (w.growth n s).2 (w.growth n t).2

/-- No limit is exceeded. -/
def Standing.Inside (standing : Standing) : Prop :=
  ∀ limit detail, standing ≠ .exceeded limit detail

/-- What a check comes to: all is inside the limits, or one is exceeded, or it cannot be told. -/
theorem Standing.cases_inside (r : Outcome Standing) :
    (∃ standing : Standing, r = .ok standing ∧ standing.Inside) ∨
      (∃ limit detail, r = .ok (.exceeded limit detail)) ∨ ∃ e, r = .error e := by
  rcases r with e | _ | ratio | ⟨limit, detail⟩
  · exact .inr (.inr ⟨e, rfl⟩)
  · exact .inl ⟨.within, rfl, nofun⟩
  · exact .inl ⟨.approaching ratio, rfl, nofun⟩
  · exact .inr (.inl ⟨limit, detail, rfl⟩)

namespace Execution

variable {σ α : Type} {w : Watch σ} {R : σ → σ → Prop} {work work' : String → Attempt α}
  {bad : Fault → Prop}

/-- What becomes of a file is the same, or it is passed over for a fault that is bad. -/
def Agrees (bad : Fault → Prop) (work work' : String → Attempt α) (path : String) : Prop :=
  (tryFile work' path).2 = (tryFile work path).2 ∨ ∃ f, (tryFile work path).2 = .error f ∧ bad f

theorem Agrees.of_result {path : String} (same : (work' path).result = (work path).result) :
    Agrees bad work work' path := by
  refine .inl ?_
  unfold tryFile
  dsimp only
  rw [same]
  split <;> rfl

/-- Nothing bad is told of: there is nothing bad, or all went well without it. -/
def Clean (bad : Fault → Prop) (r : Outcome (Execution α)) : Prop :=
  (∀ f, ¬bad f) ∨ ∃ e, r = .ok e ∧ ∀ f ∈ e.errors, ¬bad f

theorem subset_add (done : Execution α) (r : Except Fault α) :
    done.errors ⊆ (done.add r).errors := by
  cases r with
  | ok x => exact List.Subset.refl _
  | error f => exact List.subset_append_left _ _

theorem mem_add_error (done : Execution α) (f : Fault) : f ∈ (done.add (.error f)).errors :=
  List.mem_append_right _ (List.mem_singleton_self f)

/-- Where nothing bad is told of a file, the other run came to the same. -/
theorem Agrees.same {path : String} (agrees : Agrees bad work work' path) {done : Execution α}
    {r : Outcome (Execution α)} (clean : Clean bad r)
    (kept : ∀ e, r = .ok e → (done.add (tryFile work path).2).errors ⊆ e.errors) :
    (tryFile work' path).2 = (tryFile work path).2 := by
  rcases agrees with same | ⟨f, failed, bad'⟩
  · exact same
  · rcases clean with none' | ⟨e, ended, clear⟩
    · exact absurd bad' (none' f)
    · refine absurd bad' (clear f (kept e ended ?_))
      rw [failed]
      exact mem_add_error done f

/-! ### One by one -/

theorem growthNotes_alike (alike : w.Alike R) (count : Nat) (grew : Bool) {s t : σ} (st : R s t) :
    (growthNotes w count grew s).2.1 = (growthNotes w count grew t).2.1 ∧
      R (growthNotes w count grew s).2.2 (growthNotes w count grew t).2.2 := by
  obtain ⟨same, after⟩ := alike.growth count s t st
  unfold growthNotes
  split
  · generalize w.growth count s = grown at same after ⊢
    generalize w.growth count t = grown' at same after ⊢
    obtain ⟨r, s'⟩ := grown
    obtain ⟨r', t'⟩ := grown'
    obtain rfl : r = r' := same
    rcases r with e | _ | message <;> exact ⟨rfl, after⟩
  · exact ⟨rfl, st⟩

/-- Past a check, a file is tried, growth is looked at where it is due, and the rest follows. -/
theorem goSequential_passed (work : String → Attempt α) {path : String} (paths : List String)
    {done : Execution α} {s s' : σ} {standing : Standing}
    (looked : w.check done.results.length s = (.ok standing, s'))
    (inside : standing.Inside) :
    let r := (tryFile work path).2
    let grown := growthNotes w (done.add r).results.length r.isOk s'
    ∃ notes, goSequential w work done s (path :: paths) = Trace.after notes
      (match grown.2.1 with
        | .error e => ⟨[], .error e, grown.2.2⟩
        | .ok () => goSequential w work (done.add r) grown.2.2 paths) := by
  rw [goSequential, looked]
  cases standing with
  | exceeded limit detail => exact absurd rfl (inside limit detail)
  | within => exact ⟨_, rfl⟩
  | approaching ratio => exact ⟨_, rfl⟩

theorem goSequential_keeps {files : List String} {done e : Execution α} {s : σ}
    (ended : (goSequential w work done s files).outcome = .ok e) : done.errors ⊆ e.errors := by
  induction files generalizing done s with
  | nil =>
    obtain rfl := Except.ok.inj ended
    exact List.Subset.refl _
  | cons path paths ih =>
    unfold goSequential at ended
    split at ended
    · cases ended
    · cases ended
    · simp only [Trace.after] at ended
      split at ended
      · cases ended
      · exact List.Subset.trans (subset_add done _) (ih ended)

theorem goSequential_alike (alike : w.Alike R) {files : List String} {done : Execution α}
    {s t : σ} (st : R s t) (agree : ∀ path ∈ files, Agrees bad work work' path)
    (clean : Clean bad (goSequential w work done s files).outcome) :
    (goSequential w work' done t files).outcome = (goSequential w work done s files).outcome ∧
      R (goSequential w work done s files).state (goSequential w work' done t files).state := by
  induction files generalizing done s t with
  | nil => exact ⟨rfl, st⟩
  | cons path paths ih =>
    obtain ⟨same, after⟩ := alike.check done.results.length s t st
    rcases looked : w.check done.results.length s with ⟨r, s'⟩
    rcases looked' : w.check done.results.length t with ⟨r', t'⟩
    rw [looked, looked'] at same after
    obtain rfl : r = r' := same
    rcases Standing.cases_inside r with ⟨standing, rfl, inside⟩ | ⟨limit, detail, rfl⟩ | ⟨e, rfl⟩
    · obtain ⟨notes, one⟩ := goSequential_passed work paths looked inside
      obtain ⟨notes', two⟩ := goSequential_passed work' paths looked' inside
      rw [one] at clean ⊢
      rw [two]
      simp only [Trace.after] at clean ⊢
      have tried := (agree path List.mem_cons_self).same clean fun e ended => by
        split at ended
        · cases ended
        · exact goSequential_keeps ended
      obtain ⟨told, grown⟩ := growthNotes_alike alike
        (done.add (tryFile work path).2).results.length (tryFile work path).2.isOk after
      rw [tried]
      generalize growthNotes w _ _ s' = growth at clean told grown ⊢
      generalize growthNotes w _ _ t' = growth' at told grown ⊢
      obtain ⟨_, g, s''⟩ := growth
      obtain ⟨_, g', t''⟩ := growth'
      obtain rfl : g = g' := told
      cases g with
      | error e => exact ⟨rfl, grown⟩
      | ok => exact ih grown (fun path inside => agree path (List.mem_cons_of_mem _ inside)) clean
    · simp only [goSequential, looked, looked']
      exact ⟨trivial, after⟩
    · simp only [goSequential, looked, looked']
      exact ⟨trivial, after⟩

/-! ### In batches -/

theorem goBatch_passed (work : String → Attempt α) {index : Nat} {path : String}
    (paths : List String) {done : Execution α} {s s' : σ} {standing : Standing}
    (looked : w.check done.results.length s = (.ok standing, s'))
    (inside : standing.Inside) :
    ∃ notes, goBatch w work index done s (path :: paths) = Trace.after notes
      (goBatch w work index (done.add (tryFile work path).2) s' paths) := by
  rw [goBatch, looked]
  cases standing with
  | exceeded limit detail => exact absurd rfl (inside limit detail)
  | within => exact ⟨_, rfl⟩
  | approaching ratio => exact ⟨_, rfl⟩

theorem goBatch_keeps {index : Nat} {files : List String} {done e : Execution α} {s : σ}
    (ended : (goBatch w work index done s files).outcome = .ok e) : done.errors ⊆ e.errors := by
  induction files generalizing done s with
  | nil =>
    obtain rfl := Except.ok.inj ended
    exact List.Subset.refl _
  | cons path paths ih =>
    unfold goBatch at ended
    split at ended
    · cases ended
    · obtain rfl := Except.ok.inj ended
      exact subset_add done _
    · exact List.Subset.trans (subset_add done _) (ih ended)

theorem goBatch_alike (alike : w.Alike R) {index : Nat} {files : List String}
    {done : Execution α} {s t : σ} (st : R s t)
    (agree : ∀ path ∈ files, Agrees bad work work' path)
    (clean : Clean bad (goBatch w work index done s files).outcome) :
    (goBatch w work' index done t files).outcome = (goBatch w work index done s files).outcome ∧
      R (goBatch w work index done s files).state (goBatch w work' index done t files).state := by
  induction files generalizing done s t with
  | nil => exact ⟨rfl, st⟩
  | cons path paths ih =>
    obtain ⟨same, after⟩ := alike.check done.results.length s t st
    rcases looked : w.check done.results.length s with ⟨r, s'⟩
    rcases looked' : w.check done.results.length t with ⟨r', t'⟩
    rw [looked, looked'] at same after
    obtain rfl : r = r' := same
    rcases Standing.cases_inside r with ⟨standing, rfl, inside⟩ | ⟨limit, detail, rfl⟩ | ⟨e, rfl⟩
    · obtain ⟨notes, one⟩ := goBatch_passed work paths looked inside
      obtain ⟨notes', two⟩ := goBatch_passed work' paths looked' inside
      rw [one] at clean ⊢
      rw [two]
      have tried := (agree path List.mem_cons_self).same clean fun e ended => goBatch_keeps ended
      rw [tried]
      exact ih after (fun path inside => agree path (List.mem_cons_of_mem _ inside)) clean
    · simp only [goBatch, looked, looked']
      exact ⟨trivial, after⟩
    · simp only [goBatch, looked, looked']
      exact ⟨trivial, after⟩

theorem runAll_alike (alike : w.Alike R) {total : Nat} {numbered : List (List String × Nat)}
    {s t : σ} (st : R s t) (agree : ∀ b ∈ numbered, ∀ path ∈ b.1, Agrees bad work work' path)
    (clean : ∀ part ∈ (runAll w work total numbered s).1, Clean bad part.outcome) :
    (runAll w work' total numbered t).1.map Trace.outcome =
      (runAll w work total numbered s).1.map Trace.outcome ∧
    R (runAll w work total numbered s).2 (runAll w work' total numbered t).2 := by
  induction numbered generalizing s t with
  | nil => exact ⟨rfl, st⟩
  | cons b numbered ih =>
    obtain ⟨files, index⟩ := b
    obtain ⟨first, after⟩ := goBatch_alike alike st (agree _ List.mem_cons_self)
      (clean (batch w work total index files s) List.mem_cons_self)
    obtain ⟨others, last⟩ := ih after (fun b inside => agree b (List.mem_cons_of_mem _ inside))
      fun part inside => clean part (List.mem_cons_of_mem _ inside)
    refine ⟨?_, last⟩
    simp only [runAll, List.map_cons]
    exact congr (congrArg List.cons first) others

/-! ### The whole -/

theorem outcomeOf_congr {parts parts' : List (Trace σ (Execution α))}
    (same : parts'.map Trace.outcome = parts.map Trace.outcome) :
    outcomeOf parts' = outcomeOf parts := by
  funext index
  have there := congrArg (·[index]?) same
  simp only [List.getElem?_map] at there
  unfold outcomeOf
  cases found : parts[index]? <;> cases found' : parts'[index]? <;>
    simp_all

theorem collected_congr (order : Pool.Finishing) {parts parts' : List (Trace σ (Execution α))}
    (same : parts'.map Trace.outcome = parts.map Trace.outcome) :
    collected order parts' = collected order parts := by
  have count : parts'.length = parts.length := by simpa using congrArg List.length same
  unfold collected
  rw [outcomeOf_congr same, count]

theorem closed_congr (how how' : String) {t t' : Trace σ (Execution α)}
    (same : t'.outcome = t.outcome) : (closed how' t').outcome = (closed how t).outcome := by
  simp only [closed, same]
  cases t.outcome <;> rfl

/-- What is told at the end was told before it was found that something came through. -/
theorem Clean.of_closed {how : String} {t : Trace σ (Execution α)}
    (clean : Clean bad (closed how t).outcome) : Clean bad t.outcome :=
  clean.imp_right fun ⟨e, ended, clear⟩ => ⟨e, closed_eq_ok ended, clear⟩

theorem closed_state (how : String) (t : Trace σ (Execution α)) :
    (closed how t).state = t.state := by
  unfold closed
  split <;> rfl

theorem sequential_alike (alike : w.Alike R) {files : List String} {s t : σ} (st : R s t)
    (agree : ∀ path ∈ files, Agrees bad work work' path)
    (clean : Clean bad (sequential w work files s).outcome) :
    (sequential w work' files t).outcome = (sequential w work files s).outcome ∧
      R (sequential w work files s).state (sequential w work' files t).state := by
  obtain ⟨same, after⟩ := goSequential_alike alike st agree clean.of_closed
  refine ⟨closed_congr _ _ same, ?_⟩
  simp only [sequential, closed_state]
  exact after

/-- Batches hold the files, each once and in order. -/
theorem partitionFor_flatten {β : Type} {files : List β} {workers : Value}
    {batches : List (List β)} (cut : partitionFor files workers = .ok batches) :
    batches.flatten = files := by
  have whole (n : Int) (cut : partition files n = .ok batches) : batches.flatten = files := by
    unfold partition at cut
    split at cut
    · cases cut
    · obtain rfl := Except.ok.inj cut
      exact pieces_flatten _ files
  cases workers with
  | int n => exact whole n cut
  | bool b =>
    cases b with
    | true => exact whole 1 cut
    | false => cases cut
  | real x =>
    simp only [partitionFor, partitionReal] at cut
    split at cut
    · cases cut
    · split at cut
      · next none' =>
        obtain rfl := Except.ok.inj cut
        exact (List.isEmpty_iff.mp none').symm
      · obtain ⟨size, _, cut⟩ := bind_eq_ok.mp cut
        obtain rfl := Except.ok.inj cut
        exact pieces_flatten _ files
  | _ => cases cut

/-- What is told of all the batches is told of each. -/
theorem Clean.of_collected {order : Pool.Finishing} {parts : List (Trace σ (Execution α))}
    (clean : Clean bad (collected order parts)) : ∀ part ∈ parts, Clean bad part.outcome := by
  intro part inside
  rcases clean with none' | ⟨e, put, clear⟩
  · exact .inl none'
  · obtain ⟨values, whole, rfl⟩ := collected_eq_ok put
    have there : part.outcome ∈ values.map Except.ok := whole ▸ List.mem_map_of_mem inside
    obtain ⟨value, among, ended⟩ := List.mem_map.mp there
    exact .inr ⟨value, ended.symm, fun f told =>
      clear f (List.mem_flatMap.mpr ⟨value, among, told⟩)⟩

theorem parallel_alike (alike : w.Alike R) (order : Pool.Finishing) {files : List String}
    (workers : Value) {s t : σ} (st : R s t)
    (agree : ∀ path ∈ files, Agrees bad work work' path)
    (clean : Clean bad (parallel order w work files workers s).outcome) :
    (parallel order w work' files workers t).outcome =
      (parallel order w work files workers s).outcome ∧
    R (parallel order w work files workers s).state
      (parallel order w work' files workers t).state := by
  unfold parallel at clean ⊢
  split
  · exact ⟨rfl, st⟩
  · exact ⟨rfl, st⟩
  · next batches some' cut =>
    have each : ∀ b ∈ batches.zipIdx, ∀ path ∈ b.1, Agrees bad work work' path := by
      intro b inside path there
      refine agree path ?_
      rw [← partitionFor_flatten cut]
      exact List.mem_flatten.mpr ⟨b.1, List.fst_mem_of_mem_zipIdx inside, there⟩
    obtain ⟨first, others, rfl⟩ := List.exists_cons_of_ne_nil some'
    rw [cut] at clean
    have put : Clean bad (collected order
        (runAll w work (first :: others).length (first :: others).zipIdx s).1) :=
      Clean.of_closed clean
    obtain ⟨same, after⟩ := runAll_alike alike st each put.of_collected
    refine ⟨closed_congr _ _ (collected_congr order same), ?_⟩
    simp only [closed_state]
    exact after

end Execution
end Quire
