import Mathlib.Algebra.Order.Floor.Div
import Mathlib.Data.Rat.Floor
import Quire.Proofs.FileLimit
import Quire.Proofs.Rounding

/-! How files are cut into batches. All batches but the last have the quotient of the files by
the workers, rounded up, and the last one has what is left; so there may be fewer of them than
workers, but never more. -/

namespace Quire.Execution

/-- A quotient of counts, rounded up. -/
theorem ceil_div_eq (count : Nat) {parts : Nat} (positive : 0 < parts) :
    ⌈(count : ℚ) / parts⌉₊ = (count + parts - 1) / parts := by
  have positive' : (0 : ℚ) < parts := Nat.cast_pos.mpr positive
  refine eq_of_forall_ge_iff fun k => ?_
  rw [← Nat.ceilDiv_eq_add_pred_div, ceilDiv_le_iff_le_mul positive, Nat.ceil_le,
    div_le_iff₀ positive', mul_comm]
  exact_mod_cast Iff.rfl

theorem batchSize_eq_ceil (count : Nat) {workers : Nat} (staffed : 0 < workers) :
    batchSize count workers = ⌈(count : ℚ) / workers⌉₊ :=
  (ceil_div_eq count staffed).symm

section Pieces

variable {α : Type} {size : Nat}

theorem ne_nil_of_mem_pieces {xs piece : List α} (member : piece ∈ pieces size xs) :
    piece ≠ [] := by
  induction xs using pieces.induct size with
  | case1 =>
    rw [pieces] at member
    cases member
  | case2 x rest ih =>
    rw [pieces] at member
    rcases List.mem_cons.mp member with rfl | later
    · exact List.cons_ne_nil _ _
    · exact ih later

theorem pieces_eq_nil_iff {xs : List α} : pieces size xs = [] ↔ xs = [] := by
  cases xs <;> simp [pieces]

theorem length_le_size (positive : 0 < size) {xs piece : List α} (member : piece ∈ pieces size xs) :
    piece.length ≤ size := by
  induction xs using pieces.induct size with
  | case1 =>
    rw [pieces] at member
    cases member
  | case2 x rest ih =>
    rw [pieces] at member
    rcases List.mem_cons.mp member with rfl | later
    · have cut := List.length_take_le (size - 1) rest
      rw [List.length_cons]
      omega
    · exact ih later

/-- Only the last piece may be short: before a further one there was enough for a whole one. -/
theorem length_of_mem_dropLast (positive : 0 < size) {xs piece : List α}
    (member : piece ∈ (pieces size xs).dropLast) : piece.length = size := by
  induction xs using pieces.induct size with
  | case1 =>
    rw [pieces] at member
    cases member
  | case2 x rest ih =>
    rw [pieces] at member
    cases more : pieces size (rest.drop (size - 1)) with
    | nil =>
      rw [more] at member
      cases member
    | cons next others =>
      have left : rest.drop (size - 1) ≠ [] := by
        intro none'
        rw [pieces_eq_nil_iff.mpr none'] at more
        cases more
      have enough : size - 1 < rest.length := by
        simpa [List.drop_eq_nil_iff] using left
      rw [more, List.dropLast_cons_of_ne_nil (List.cons_ne_nil _ _), ← more] at member
      rcases List.mem_cons.mp member with rfl | later
      · rw [List.length_cons, List.length_take]
        omega
      · exact ih later

/-- The number of pieces is the length by their size, rounded up. -/
theorem length_pieces (positive : 0 < size) (xs : List α) :
    (pieces size xs).length = (xs.length + size - 1) / size := by
  induction xs using pieces.induct size with
  | case1 =>
    rw [pieces, List.length_nil, List.length_nil, Nat.div_eq_of_lt (by omega)]
  | case2 x rest ih =>
    have one : rest.length + 1 + size - 1 = rest.length + size := by omega
    rw [pieces, List.length_cons, ih, List.length_cons, List.length_drop, one,
      Nat.add_div_right _ positive]
    rcases Nat.lt_or_ge rest.length (size - 1) with short | long
    · rw [Nat.div_eq_of_lt (by omega), Nat.div_eq_of_lt (by omega)]
    · congr 2
      omega

/-- None of the pieces is empty, so there are no more of them than members. -/
theorem length_pieces_le (positive : 0 < size) (xs : List α) :
    (pieces size xs).length ≤ xs.length := by
  rw [length_pieces positive, ← Nat.ceilDiv_eq_add_pred_div, ceilDiv_le_iff_le_mul positive]
  exact Nat.le_mul_of_pos_left _ positive

end Pieces

/-- Files are cut into batches that hold them all, in order; none is empty. Their size is the
quotient of the files by the workers, rounded up, as it comes out in floating point too: all
batches but the last are of that size, and the last one is not larger. So there are as many as
the quotient of the files by the size says, which is not more than there are files or workers;
without files there are none. -/
theorem partitionFor_even {α : Type} {files : List α} {workers : Value} {n : Int}
    (counts : workers.number? = some (.whole n)) (staffed : 1 ≤ n)
    (few : files.length < 2 ^ 53) :
    ∃ batches size, partitionFor files workers = .ok batches ∧
      size = ⌈(files.length : ℚ) / n⌉₊ ∧
      (files ≠ [] → ∃ quotient up,
        (Number.whole files.length).quotient? (.whole n) = some quotient ∧
        quotient.ceiling? = some up ∧ (size : Int) = max 1 up) ∧
      batches.flatten = files ∧ (∀ batch ∈ batches, batch ≠ []) ∧
      (∀ batch ∈ batches.dropLast, batch.length = size) ∧
      (∀ batch ∈ batches.getLast?, batch.length ≤ size) ∧
      batches.length = ⌈(files.length : ℚ) / size⌉₊ ∧
      (batches.length : Int) ≤ min (files.length : Int) n ∧ (files = [] → batches = []) := by
  obtain ⟨w, rfl⟩ := Int.eq_ofNat_of_zero_le (show 0 ≤ n by omega)
  have staffed' : 0 < w := by omega
  have cut := partitionFor_counts counts staffed files
  have most := length_partitionFor_le counts cut
  rw [Int.toNat_natCast] at cut most
  have size : batchSize files.length w = ⌈(files.length : ℚ) / ((w : Int) : ℚ)⌉₊ := by
    rw [batchSize_eq_ceil _ staffed', Int.cast_natCast]
  refine ⟨_, batchSize files.length w, cut, size, fun some' => ?_, pieces_flatten _ files,
    fun batch => ne_nil_of_mem_pieces, ?_⟩
  · have some' := List.length_pos_iff.mpr some'
    obtain ⟨up, rounded, whole⟩ := batchSize_rounded few some' staffed'
    obtain ⟨quotient, divided, ceiling⟩ := Option.bind_eq_some_iff.mp rounded
    refine ⟨quotient, up, divided, ceiling, ?_⟩
    rw [whole]
    exact Nat.cast_max (1 : ℕ) up
  · rcases Nat.eq_zero_or_pos files.length with none' | some'
    · obtain rfl := List.length_eq_zero_iff.mp none'
      have nothing : pieces (batchSize 0 w) ([] : List α) = [] := pieces_eq_nil_iff.mpr rfl
      simp [nothing]
    · have positive : 0 < batchSize files.length w := Nat.div_pos (by omega) staffed'
      refine ⟨fun batch => length_of_mem_dropLast positive,
        fun batch last => length_le_size positive (List.mem_of_mem_getLast? last), ?_,
        le_min ?_ most, pieces_eq_nil_iff.mpr⟩
      · rw [ceil_div_eq _ positive, length_pieces positive]
      · exact Int.ofNat_le.mpr (length_pieces_le positive files)

def fiveFiles : List String := ["a.md", "b.md", "c.md", "d.md", "e.md"]

/-- Four workers do not get a batch each when there are five files. -/
theorem partitionFor_even_five :
    (Value.number? (.int 4) = some (.whole 4) ∧ (1 : Int) ≤ 4 ∧ fiveFiles.length < 2 ^ 53) ∧
    ∃ batches, partitionFor fiveFiles (.int 4) = .ok batches ∧
      batches = [["a.md", "b.md"], ["c.md", "d.md"], ["e.md"]] ∧
      (∀ batch ∈ batches.dropLast, batch.length = 2) ∧ batches.length = 3 := by
  have counts : Value.number? (.int 4) = some (.whole 4) := rfl
  have few : fiveFiles.length < 2 ^ 53 := by decide
  obtain ⟨batches, size, cut, quotient, _, _, _, whole, _, count, _⟩ :=
    partitionFor_even counts (by decide) few
  obtain rfl : size = 2 := by
    rw [quotient, Int.cast_ofNat]
    exact ceil_div_eq fiveFiles.length (show 0 < 4 by decide)
  refine ⟨⟨counts, by decide, few⟩, batches, cut, ?_, whole, ?_⟩
  · refine Except.ok.inj (cut.symm.trans ?_)
    with_unfolding_all rfl
  · rw [count]
    exact ceil_div_eq fiveFiles.length (by decide)

end Quire.Execution
