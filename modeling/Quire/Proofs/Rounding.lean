import Mathlib.Tactic.Ring
import Quire.Execution

/-! How many files go into a batch. The count is a quotient in floating point, rounded up;
for counts that floating point can tell apart this is the quotient of whole numbers rounded
up, as the spacing near the quotient is less than the fraction it can miss. A whole number in
which no more than 53 binary digits matter is not rounded at all. -/

namespace Quire

namespace Binary64

variable {num den m : Nat}

theorem roundHalfEven_le (positive : 0 < den) (bound : num ≤ m * den) :
    roundHalfEven num den ≤ m := by
  have parts := Nat.div_add_mod num den
  have most : num / den ≤ m := Nat.div_le_of_le_mul (by rwa [Nat.mul_comm])
  rcases Nat.lt_or_eq_of_le most with below | same
  · unfold roundHalfEven
    dsimp only
    split_ifs <;> omega
  · have none' : num % den = 0 := by
      rw [same, Nat.mul_comm] at parts
      omega
    unfold roundHalfEven
    dsimp only
    rw [if_pos (by omega)]
    exact most

theorem lt_roundHalfEven (positive : 0 < den) (bound : (2 * m + 1) * den < 2 * num) :
    m < roundHalfEven num den := by
  have parts := Nat.div_add_mod num den
  have rest := Nat.mod_lt num positive
  have least : m ≤ num / den := by
    rw [Nat.le_div_iff_mul_le positive]
    rw [Nat.add_mul, Nat.mul_assoc, Nat.one_mul] at bound
    omega
  rcases Nat.lt_or_eq_of_le least with above | same
  · unfold roundHalfEven
    dsimp only
    split_ifs <;> omega
  · have beyond : den < 2 * (num % den) := by
      rw [← same, Nat.mul_comm] at parts
      rw [Nat.add_mul, Nat.mul_assoc, Nat.one_mul] at bound
      omega
    unfold roundHalfEven
    dsimp only
    rw [if_neg (by omega), if_pos beyond]
    omega

theorem roundHalfEven_mul (positive : 0 < den) (m : Nat) : roundHalfEven (m * den) den = m := by
  simp [roundHalfEven, positive]

/-- The spacing near the quotient of two counts is no more than the unit. -/
theorem excess_le {count e : Nat} (small : count < 2 ^ 53) (workers : Nat) :
    excess (count * 2 ^ e / workers) ≤ e := by
  have scaled : count * 2 ^ e < 2 ^ 53 * 2 ^ e :=
    Nat.mul_lt_mul_of_pos_right small (Nat.two_pow_pos e)
  have quotient := Nat.div_le_self (count * 2 ^ e) workers
  generalize count * 2 ^ e / workers = q at quotient ⊢
  rcases Nat.eq_zero_or_pos q with rfl | positive
  · exact Nat.zero_le e
  · have least : 2 ^ q.log2 ≤ q := Nat.log2_self_le (by omega)
    have most : q.log2 < 53 + e := by
      refine (Nat.pow_lt_pow_iff_right (a := 2) (by decide)).mp ?_
      rw [Nat.pow_add]
      omega
    rw [excess]
    omega

/-- It is less than twice the fraction of the unit that one file makes. -/
theorem mul_spacing_lt {count workers e : Nat} (small : count < 2 ^ 53) (fine : 53 ≤ e)
    (fewer : workers ≤ count) : workers * 2 ^ excess (count * 2 ^ e / workers) < 2 * 2 ^ e := by
  have scaled : count * 2 ^ e < 2 ^ 53 * 2 ^ e :=
    Nat.mul_lt_mul_of_pos_right small (Nat.two_pow_pos e)
  have whole := Nat.div_mul_le_self (count * 2 ^ e) workers
  generalize count * 2 ^ e / workers = q at whole ⊢
  rcases Nat.lt_or_ge q.log2 53 with none' | some'
  · have coarse : 2 ^ 53 ≤ 2 ^ e := Nat.pow_le_pow_right (by decide) fine
    rw [excess, Nat.sub_eq_zero_of_le (by omega), Nat.pow_zero]
    omega
  · have least : 2 ^ q.log2 ≤ q := Nat.log2_self_le (by rintro rfl; simp at some')
    have split : 2 ^ q.log2 = 2 ^ excess q * 2 ^ 52 := by
      rw [← Nat.pow_add, excess]
      congr 1
      omega
    have reached : 2 ^ q.log2 * workers ≤ q * workers := Nat.mul_le_mul_right workers least
    rw [split, Nat.mul_right_comm, Nat.mul_comm _ workers] at reached
    omega

/-- A quotient that is rounded to a spacing that divides the unit stays in the unit it is in. -/
theorem rounded_within {count workers unit step k : Nat} (staffed : 0 < workers)
    (spaced : 0 < step) (divides : step ∣ unit) (upper : count ≤ k * workers) :
    roundHalfEven (count * unit) (workers * step) * step ≤ k * unit ∧
      ((k - 1) * workers < count → workers * step < 2 * unit → 0 < k →
        (k - 1) * unit < roundHalfEven (count * unit) (workers * step) * step) := by
  obtain ⟨parts, rfl⟩ := divides
  have positive : 0 < workers * step := Nat.mul_pos staffed spaced
  refine ⟨?_, fun lower fine some' => ?_⟩
  · have inside : roundHalfEven (count * (step * parts)) (workers * step) ≤ k * parts := by
      refine roundHalfEven_le positive ?_
      calc count * (step * parts) ≤ k * workers * (step * parts) := Nat.mul_le_mul_right _ upper
        _ = k * parts * (workers * step) := by ring
    calc _ ≤ k * parts * step := Nat.mul_le_mul_right step inside
      _ = k * (step * parts) := by ring
  · obtain ⟨j, rfl⟩ : ∃ j, k = j + 1 := ⟨k - 1, by omega⟩
    rw [Nat.add_sub_cancel] at lower ⊢
    have inside : j * parts < roundHalfEven (count * (step * parts)) (workers * step) := by
      refine lt_roundHalfEven positive ?_
      have reached : (j * workers + 1) * (step * parts) ≤ count * (step * parts) :=
        Nat.mul_le_mul_right _ lower
      calc (2 * (j * parts) + 1) * (workers * step)
          = 2 * (j * workers * (step * parts)) + workers * step := by ring
        _ < 2 * (j * workers * (step * parts)) + 2 * (step * parts) := Nat.add_lt_add_left fine _
        _ = 2 * ((j * workers + 1) * (step * parts)) := by ring
        _ ≤ 2 * (count * (step * parts)) := Nat.mul_le_mul_left 2 reached
    calc j * (step * parts) = j * parts * step := by ring
      _ < _ := Nat.mul_lt_mul_of_pos_right inside spaced

theorem one_power : ∃ e, one = 2 ^ e ∧ 53 ≤ e ∧ 2 ^ (53 + e) ≤ limit := by
  unfold one limit
  -- as variables, so that neither power is multiplied out
  generalize unit : 1074 = m
  generalize bound : 2098 = n
  exact ⟨m, rfl, by omega, Nat.pow_le_pow_right (by decide) (by omega)⟩

theorem pow_two (n : Nat) : Nat.pow 2 n = 2 ^ n := rfl

/-- Rounded up, a part of the unit counts as all of it. -/
theorem ceiling_within {units unit k : Nat} (positive : 0 < unit) (some' : 0 < k)
    (most : units ≤ k * unit) (least : 1 < k → (k - 1) * unit < units) :
    max 1 ((units + unit - 1) / unit) = k := by
  have below : (units + unit - 1) / unit ≤ k := by
    refine Nat.le_of_lt_succ ((Nat.div_lt_iff_lt_mul positive).mpr ?_)
    rw [Nat.succ_mul]
    omega
  rcases Nat.eq_or_lt_of_le (show 1 ≤ k from some') with rfl | several
  · omega
  · have above : k ≤ (units + unit - 1) / unit := by
      have beyond := least several
      obtain ⟨j, rfl⟩ : ∃ j, k = j + 1 := ⟨k - 1, by omega⟩
      rw [Nat.add_sub_cancel] at beyond
      rw [Nat.le_div_iff_mul_le positive, Nat.succ_mul]
      omega
    omega

theorem ceiling?_finite (units : Nat) :
    (finite false units).ceiling? = some (((units + one - 1) / one : Nat) : Int) := rfl

/-- The quotient of two counts in floating point is finite; rounded up it is what the whole
numbers come to. -/
theorem ofRatio_within {count workers k : Nat} (small : count < 2 ^ 53) (staffed : 0 < workers)
    (some' : 0 < k) (lower : (k - 1) * workers < count) (upper : count ≤ k * workers) :
    ∃ units, ofRatio false count workers = .finite false units ∧
      max 1 ((units + one - 1) / one) = k := by
  obtain ⟨e, power, fine, room⟩ := one_power
  have spaced : 0 < 2 ^ excess (count * one / workers) := Nat.two_pow_pos _
  have divides : 2 ^ excess (count * one / workers) ∣ one := by
    rw [power]
    exact Nat.pow_dvd_pow 2 (excess_le small workers)
  have unit : 0 < one := by
    rw [power]
    exact Nat.two_pow_pos e
  obtain ⟨most, least⟩ := rounded_within staffed spaced divides upper
  have step : (k - 1) * 1 ≤ (k - 1) * workers := Nat.mul_le_mul_left _ staffed
  have finite : k * one < limit := by
    have scaled : k * 2 ^ e < 2 ^ 53 * 2 ^ e :=
      Nat.mul_lt_mul_of_pos_right (by omega) (Nat.two_pow_pos e)
    rw [power]
    rw [← Nat.pow_add] at scaled
    exact scaled.trans_le room
  have rounded : ofRatio false count workers = .finite false (roundHalfEven (count * one)
      (workers * 2 ^ excess (count * one / workers)) * 2 ^ excess (count * one / workers)) := by
    unfold ofRatio ofUnits
    simp only [pow_two, Nat.lt_of_le_of_lt most finite, if_true]
  refine ⟨_, rounded, ceiling_within unit some' most fun several => least lower ?_ some'⟩
  have fewer : 1 * workers ≤ (k - 1) * workers := Nat.mul_le_mul_right workers (by omega)
  rw [power]
  exact mul_spacing_lt small fine (by omega)

theorem limit_eq : limit = 2 ^ 1024 * one := by
  unfold limit one
  have sum : 2098 = 1024 + 1074 := rfl
  -- as variables, so that no power is multiplied out
  generalize 2098 = n at sum ⊢
  generalize 1024 = k at sum ⊢
  generalize 1074 = m at sum ⊢
  rw [sum]
  exact Nat.pow_add 2 k m

/-- Units that are not finer than the spacing at their size are not rounded. -/
theorem ofUnits_exact {negative : Bool} {units : Nat} (divides : 2 ^ excess units ∣ units)
    (within : units < limit) : ofUnits negative units 1 = .finite negative units := by
  obtain ⟨steps, whole⟩ := divides
  have rounded : roundHalfEven units (2 ^ excess units) = steps := by
    have exact' := roundHalfEven_mul (Nat.two_pow_pos (excess units)) steps
    rwa [Nat.mul_comm, ← whole] at exact'
  simp only [ofUnits, Nat.div_one, Nat.one_mul, pow_two]
  rw [rounded, Nat.mul_comm, ← whole, if_pos within]

/-- A whole number that is a floating point number: it is within the range, and no more than 53
of its binary digits matter. -/
def IsExact (n : Nat) : Prop := n < 2 ^ 1024 ∧ ∃ digits e, digits < 2 ^ 53 ∧ n = digits * 2 ^ e

theorem IsExact.of_lt {n : Nat} (small : n < 2 ^ 53) : IsExact n := by
  refine ⟨?_, n, 0, small, (Nat.mul_one n).symm⟩
  have more : 53 ≤ 1024 := by decide
  generalize 1024 = k at more ⊢
  exact Nat.lt_of_lt_of_le small (Nat.pow_le_pow_right (by decide) more)

/-- Such a number is not rounded. -/
theorem ofInt_exact {n : Int} (exact' : IsExact n.natAbs) :
    ofInt n = .finite (decide (n < 0)) (n.natAbs * one) := by
  obtain ⟨range, digits, e, few, written⟩ := exact'
  obtain ⟨fine, unit, -⟩ := one_power
  have positive : 0 < one := by
    rw [unit]
    exact Nat.two_pow_pos fine
  rw [ofInt, ofRatio]
  refine ofUnits_exact ?_ ?_
  · have units : n.natAbs * one = digits * 2 ^ (e + fine) := by
      rw [written, unit, Nat.pow_add, Nat.mul_assoc]
    have spacing := excess_le (e := e + fine) few 1
    rw [Nat.div_one] at spacing
    rw [units]
    exact (Nat.pow_dvd_pow 2 spacing).mul_left digits
  · rw [limit_eq]
    exact (Nat.mul_lt_mul_right positive).mpr range

end Binary64

/-- A whole number whose nearest one is finite. -/
theorem Number.toReal?_whole {n : Int} {negative : Bool} {units : Nat}
    (rounded : Binary64.ofInt n = .finite negative units) :
    (Number.whole n).toReal? = some (.finite negative units) := by
  generalize whole : Number.whole n = m
  fun_cases Number.toReal? m with
  | case1 x => cases whole
  | case2 k s u near =>
    cases whole
    rw [← rounded, ← near]
  | case3 k infinite =>
    cases whole
    exact absurd rounded (infinite negative units)

theorem Number.quotient?_counts {count workers units : Nat} (staffed : 0 < workers)
    (rounded : Binary64.ofRatio false count workers = .finite false units) :
    (whole count).quotient? (.whole workers) = some (.finite false units) := by
  have nonzero : (workers : Int) ≠ 0 := by omega
  have unsigned (n : Nat) : decide ((n : Int) < 0) = false := by
    rw [decide_eq_false_iff_not]
    omega
  have divided : Binary64.ofRatio (decide ((count : Int) < 0) != decide ((workers : Int) < 0))
      (count : Int).natAbs (workers : Int).natAbs = .finite false units := by
    rw [unsigned, unsigned, Int.natAbs_natCast, Int.natAbs_natCast]
    exact rounded
  unfold quotient?
  dsimp only
  rw [if_neg nonzero, divided]

/-- Up to so many files, the size of batches is their quotient by the workers in floating
point, rounded up, or one. -/
theorem Execution.batchSize_rounded {count workers : Nat} (small : count < 2 ^ 53)
    (some' : 0 < count) (staffed : 0 < workers) :
    ∃ size : Nat, ((Number.whole count).quotient? (.whole workers)).bind Binary64.ceiling? =
      some (size : Int) ∧ batchSize count workers = max 1 size := by
  have whole := Nat.div_add_mod (count + workers - 1) workers
  have rest := Nat.mod_lt (count + workers - 1) staffed
  have positive : 0 < batchSize count workers := Nat.div_pos (by omega) staffed
  rw [← batchSize, Nat.mul_comm] at whole
  obtain ⟨k, size⟩ : ∃ k, batchSize count workers = k + 1 := ⟨_, (Nat.sub_add_cancel positive).symm⟩
  rw [size, Nat.succ_mul] at whole
  obtain ⟨units, rounded, up⟩ := Binary64.ofRatio_within (k := k + 1) small staffed
    (Nat.succ_pos k) (by rw [Nat.add_sub_cancel]; omega) (by rw [Nat.succ_mul]; omega)
  refine ⟨(units + Binary64.one - 1) / Binary64.one, ?_, ?_⟩
  · rw [Number.quotient?_counts staffed rounded, Option.bind_some, Binary64.ceiling?_finite]
  · rw [size, up]

end Quire
