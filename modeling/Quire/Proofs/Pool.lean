import Quire.Execution.Pool

/-! What becomes of the items of a pool. Whatever finishes first, an item is
either delivered, or in flight, or passed over after an error that was raised;
in the end nothing is in flight unless there was such an error. -/

namespace Quire
namespace Pool

variable {ι ε ρ : Type} (order : Finishing) {failFast : Bool} {work : ι → Except ε ρ}

theorem nodup_eraseDups (xs : List Nat) : xs.eraseDups.Nodup := by
  match xs with
  | [] => exact .nil
  | x :: xs =>
    have shorter := List.length_filter_le (fun y => !y == x) xs
    rw [List.eraseDups_cons]
    refine List.nodup_cons.mpr ⟨?_, nodup_eraseDups _⟩
    simp
termination_by xs.length

theorem finished_spec (look n : Nat) :
    (finished order look n).Nodup ∧ ∃ i ∈ finished order look n, i ≤ n := by
  unfold finished
  cases places : (order look (n + 1)).filter (· ≤ n) with
  | nil => exact ⟨by simp, 0, by simp, by omega⟩
  | cons i others =>
    have member : i ∈ (order look (n + 1)).filter (· ≤ n) := by simp [places]
    have bound : i ≤ n := by simpa using (List.mem_filter.mp member).2
    exact ⟨nodup_eraseDups _, i, by simp, bound⟩

/-- What has finished and what is still going are all that was in flight. -/
theorem split_perm {places : List Nat} (distinct : places.Nodup) (flight : List ι) :
    ((split places flight).1 ++ (split places flight).2).Perm flight := by
  -- items may be equal, so both sides are compared with their places
  have numbered : flight.zipIdx.Nodup := by
    refine List.Pairwise.of_map (S := (· ≠ ·)) Prod.snd
      (fun _ _ other same => other (congrArg _ same)) ?_
    rw [List.zipIdx_map_snd]
    exact List.nodup_range'
  have finishing : (places.filterMap fun i => flight[i]?.map (·, i)).Nodup := by
    refine List.Pairwise.filterMap _ (fun i j other a ha b hb same => ?_) distinct
    obtain ⟨x, _, rfl⟩ := Option.map_eq_some_iff.mp ha
    obtain ⟨y, _, rfl⟩ := Option.map_eq_some_iff.mp hb
    exact other (congrArg Prod.snd same)
  have named : (places.filterMap fun i => flight[i]?.map (·, i)).Perm
      (flight.zipIdx.filter fun x => places.contains x.2) := by
    refine (List.perm_ext_iff_of_nodup finishing (numbered.filter _)).mpr fun x => ?_
    rw [List.mem_filter, List.mem_zipIdx_iff_getElem?, List.mem_filterMap]
    constructor
    · rintro ⟨i, member, found⟩
      obtain ⟨y, there, rfl⟩ := Option.map_eq_some_iff.mp found
      exact ⟨there, by simpa using member⟩
    · rintro ⟨there, member⟩
      exact ⟨x.2, by simpa using member, by simp [there]⟩
  have whole := (named.append_right
    (flight.zipIdx.filter fun x => !places.contains x.2)).trans (List.filter_append_perm _ _)
  have bare := whole.map Prod.fst
  rw [List.map_append, List.zipIdx_map_fst, List.map_filterMap] at bare
  simpa [split, Option.map_map, Function.comp_def] using bare

/-- Something finishes at every look, so fewer items stay in flight. -/
theorem split_shorter {places : List Nat} (distinct : places.Nodup) (flight : List ι)
    (some : ∃ i ∈ places, i < flight.length) :
    (split places flight).2.length < flight.length := by
  obtain ⟨i, member, bound⟩ := some
  have lengths := (split_perm distinct flight).length_eq
  rw [List.length_append] at lengths
  have landed : flight[i] ∈ (split places flight).1 :=
    List.mem_filterMap.mpr ⟨i, member, List.getElem?_eq_getElem bound⟩
  have positive := List.length_pos_of_mem landed
  omega

/-- The outcomes of some items, taken in one after another. -/
def settle (failFast : Bool) (work : ι → Except ε ρ) (d : Delivery ε ρ) (items : List ι) :
    Delivery ε ρ :=
  items.foldl (fun d i => d.take failFast (work i)) d

/-- A raised error stays. -/
theorem take_raised {d : Delivery ε ρ} {outcome : Except ε ρ}
    (quiet : (d.take failFast outcome).raised = none) : d.raised = none := by
  cases raised : d.raised with
  | none => rfl
  | some e => simp [Delivery.take, raised] at quiet

theorem settle_raised {d : Delivery ε ρ} {items : List ι}
    (quiet : (settle failFast work d items).raised = none) : d.raised = none := by
  induction items generalizing d with
  | nil => exact quiet
  | cons i items ih => exact take_raised (ih quiet)

/-- Where the items of a pool are: some have been delivered, some are in flight,
and some were passed over since an error was raised. -/
structure Flight.Accounts (failFast : Bool) (work : ι → Except ε ρ)
    (items settled skipped : List ι) (f : Flight ι ε ρ) : Prop where
  whole : (settled ++ f.pending ++ skipped).Perm items
  delivered : f.delivery = settle failFast work {} settled
  skips : f.delivery.raised = none → skipped = []

/-- Each wait lets one item go at least. -/
theorem Flight.drain_shorter (failFast : Bool) (work : ι → Except ε ρ) (f : Flight ι ε ρ) :
    (f.drain order failFast work).pending.length ≤ f.pending.length - 1 := by
  unfold Flight.drain
  split
  · rename_i landed
    simp [landed]
  · rename_i first others flying
    obtain ⟨distinct, i, member, bound⟩ := finished_spec order f.looks others.length
    have shorter := split_shorter distinct f.pending
      ⟨i, member, by rw [flying, List.length_cons]; omega⟩
    dsimp only
    omega

theorem Flight.Accounts.drain {items settled skipped : List ι} {f : Flight ι ε ρ}
    (h : f.Accounts failFast work items settled skipped) :
    ∃ settled, (f.drain order failFast work).Accounts failFast work items settled skipped := by
  unfold Flight.drain
  split
  · exact ⟨settled, h⟩
  · rename_i first others flying
    have parted := split_perm (finished_spec order f.looks others.length).1 f.pending
    refine ⟨settled ++ (split (finished order f.looks others.length) f.pending).1, ?_, ?_, ?_⟩
    · rw [List.append_assoc settled]
      exact ((parted.append_left settled).append_right skipped).trans h.whole
    · simp only [settle, List.foldl_append]
      rw [h.delivered]
      rfl
    · intro quiet
      exact h.skips (settle_raised quiet)

theorem Flight.Accounts.submit {items settled skipped : List ι} {f : Flight ι ε ρ}
    (h : f.Accounts failFast work items settled skipped) (window : Nat) (item : ι) :
    ∃ settled skipped, (f.submit order window failFast work item).Accounts failFast work
      (items ++ [item]) settled skipped := by
  unfold Flight.submit
  split
  · rename_i raised
    refine ⟨settled, skipped ++ [item], ?_, h.delivered, ?_⟩
    · rw [← List.append_assoc]
      exact h.whole.append_right [item]
    · intro quiet
      rw [quiet] at raised
      cases raised
  · have sent : Flight.Accounts failFast work (items ++ [item]) settled skipped
        { f with pending := f.pending ++ [item] } := by
      refine ⟨?_, h.delivered, h.skips⟩
      have moved : (settled ++ (f.pending ++ [item]) ++ skipped).Perm
          (settled ++ f.pending ++ skipped ++ [item]) := by
        rw [← List.append_assoc, List.append_assoc, List.append_assoc (_ ++ _)]
        exact List.perm_append_comm.append_left _
      exact moved.trans (h.whole.append_right [item])
    dsimp only
    split
    · obtain ⟨settled, drained⟩ := sent.drain order
      exact ⟨settled, skipped, drained⟩
    · exact ⟨settled, skipped, sent⟩

theorem accounts_new (failFast : Bool) (work : ι → Except ε ρ) :
    Flight.Accounts failFast work [] [] [] {} where
  whole := .nil
  delivered := rfl
  skips _ := rfl

theorem Flight.Accounts.submits {items settled skipped : List ι} {f : Flight ι ε ρ}
    (h : f.Accounts failFast work items settled skipped) (window : Nat) (more : List ι) :
    ∃ settled skipped, (more.foldl (Flight.submit order window failFast work) f).Accounts
      failFast work (items ++ more) settled skipped := by
  induction more generalizing items settled skipped f with
  | nil => exact ⟨settled, skipped, by rwa [List.append_nil]⟩
  | cons item more ih =>
    obtain ⟨settled, skipped, sent⟩ := h.submit order window item
    obtain ⟨settled, skipped, all⟩ := ih sent
    exact ⟨settled, skipped, by rwa [List.append_assoc] at all⟩

theorem Flight.Accounts.finish {items settled skipped : List ι} {f : Flight ι ε ρ}
    (h : f.Accounts failFast work items settled skipped) {fuel : Nat}
    (enough : f.pending.length ≤ fuel) :
    ∃ settled, (f.finish order failFast work fuel).Accounts failFast work items settled skipped ∧
      ((f.finish order failFast work fuel).delivery.raised = none →
        (f.finish order failFast work fuel).pending = []) := by
  induction fuel generalizing settled f with
  | zero =>
    have landed : f.pending = [] := by simpa using enough
    exact ⟨settled, h, fun _ => landed⟩
  | succ fuel ih =>
    unfold Flight.finish
    split
    · rename_i ended
      refine ⟨settled, h, fun quiet => ?_⟩
      simpa [quiet] using ended
    · obtain ⟨settled, drained⟩ := h.drain order
      have shorter := f.drain_shorter order failFast work
      exact ih drained (by omega)

/-- Every item of a pool is delivered, and once only, unless an error is raised. -/
theorem run_settled {p : Pool} (staffed : 1 ≤ p.workers) (failFast : Bool)
    (work : ι → Except ε ρ) (items : List ι) :
    ∃ settled rest, p.run order failFast work items = .ok (settle failFast work {} settled) ∧
      (settled ++ rest).Perm items ∧
      ((settle failFast work {} settled).raised = none → rest = []) := by
  have unstaffed : ¬ p.workers < 1 := by omega
  obtain ⟨_, skipped, sent⟩ := (accounts_new failFast work).submits order p.span items
  rw [run, if_neg unstaffed]
  generalize items.foldl (Flight.submit order p.span failFast work) {} = f at sent ⊢
  obtain ⟨settled, finished, landed⟩ := sent.finish order (Nat.le_refl _)
  rw [finished.delivered] at landed
  refine ⟨settled, (f.finish order failFast work f.pending.length).pending ++ skipped,
    congrArg _ finished.delivered, ?_, fun quiet => ?_⟩
  · rw [← List.append_assoc]
    exact finished.whole
  · have skips := finished.skips (by rwa [finished.delivered])
    rw [landed quiet, skips]
    rfl

/-- Items that all come through are all delivered. -/
theorem settle_ok (failFast : Bool) {value : ι → ρ} {items : List ι}
    (works : ∀ i ∈ items, work i = .ok (value i)) {d : Delivery ε ρ} (quiet : d.raised = none) :
    settle failFast work d items = { d with results := d.results ++ items.map value } := by
  induction items generalizing d with
  | nil => simp [settle]
  | cons i items ih =>
    have taken : d.take failFast (work i) = { d with results := d.results ++ [value i] } := by
      simp [Delivery.take, quiet, works i (List.mem_cons_self)]
    change settle failFast work (d.take failFast (work i)) items = _
    have rest := ih (fun j member => works j (List.mem_cons_of_mem _ member))
      (d := { d with results := d.results ++ [value i] }) quiet
    rw [taken, rest]
    simp

/-- A pool whose items all come through delivers each of them once, in the order
of finishing. -/
theorem run_ok {p : Pool} (staffed : 1 ≤ p.workers) (failFast : Bool)
    {value : ι → ρ} {items : List ι} (works : ∀ i ∈ items, work i = .ok (value i)) :
    ∃ results, p.run order failFast work items = .ok { results } ∧
      results.Perm (items.map value) := by
  obtain ⟨settled, rest, whole, perm, landed⟩ := run_settled order staffed failFast work items
  have delivered := settle_ok failFast (d := {})
    (fun i member => works i (perm.subset (List.mem_append_left _ member))) rfl
  rw [delivered] at whole landed
  rw [landed rfl, List.append_nil] at perm
  exact ⟨_, whole, perm.map value⟩

end Pool
end Quire
