import Quire.Bounds
import Quire.Proofs.Chain

/-! Bounds that settings ask for. Whether there are any to be had is a matter of the
settings alone: the number of files only fills in the limits that are not set. -/

namespace Quire

/-- Both zeros are equal to the whole one. -/
theorem Binary64.compareInt?_zero (negative : Bool) :
    (Binary64.finite negative 0).compareInt? 0 = some .eq := by
  have zero : (if negative then -((0 : Nat) : Int) else (0 : Nat)) = 0 := by
    cases negative <;> rfl
  rw [compareInt?, Int.zero_mul, zero]
  rfl

/-- A number that a limit can be. -/
def Value.IsLimit (v : Value) : Prop := ∃ n : Number, v = .ofNumber n ∧ n.lessEq (.whole 0) = false

/-- No limit counts as nothing. -/
theorem Value.IsLimit.truthy {v : Value} (limit : v.IsLimit) : v.truthy = true := by
  obtain ⟨n, rfl, positive⟩ := limit
  cases n with
  | whole n =>
    rw [Number.lessEq_whole, decide_eq_false_iff_not] at positive
    simp only [ofNumber, Value.truthy, bne_iff_ne, ne_eq]
    omega
  | real x =>
    cases x with
    | finite negative units =>
      cases units with
      | zero =>
        have none' : (Number.real (.finite negative 0)).lessEq (.whole 0) = true := by
          rw [Number.lessEq, Number.compare?, Binary64.compareInt?_zero]
          rfl
        rw [none'] at positive
        cases positive
      | succ units => rfl
    | nan mark => rfl
    | infinite negative => rfl

namespace Limits

theorem positive_limit (name : String) {n : Number} (h : n.lessEq (.whole 0) = false) :
    positive name (.ofNumber n) = .ok ⟨n, h⟩ := by
  cases n with
  | whole n => exact dif_pos h
  | real x => exact dif_pos h

theorem positive_whole (name : String) {n : Int} (h : 0 < n) :
    positive name (.int n) = .ok ⟨.whole n, Bounds.whole_open n h⟩ :=
  dif_pos (Bounds.whole_open n h)

/-- A limit that is set stands, and another stands in for one that is not. -/
theorem positive_orElse (name : String) {v : Value} (set : v = .null ∨ v.IsLimit) {d : Int}
    (h : 0 < d) :
    ∃ p, positive name (v.orElse (.int d)) = .ok p ∧ (v = .null ∨ v = .ofNumber p.1) := by
  rcases set with rfl | limit
  · exact ⟨_, positive_whole name h, .inl rfl⟩
  · have stands : v.orElse (.int d) = v := if_pos limit.truthy
    obtain ⟨n, rfl, open'⟩ := limit
    rw [stands, positive_limit name open']
    exact ⟨_, rfl, .inr rfl⟩

end Limits

namespace Bounds

open Limits

theorem ofWhole_natCast (n : Nat) : ∃ b, ofWhole n = .ok b := by
  unfold ofWhole
  rw [if_neg (by omega)]
  split
  · exact ⟨_, rfl⟩
  · exact ⟨_, rfl⟩

theorem withFallback_whole (n : Nat) (c : BoundsConfig) :
    withFallback (.whole n) c = (ofValues (c.memory.orElse (.int (allowance (max n 1)).1))
      (c.files.orElse (.int (max (n : Int) 1 * 2)))
      (c.time.orElse (.int (allowance (max n 1)).2)) >>=
        fun l => .ok (.bounded l)) := rfl

/-- Limits that are set are kept as they are. -/
def Keeps (b : Bounds) (c : BoundsConfig) : Prop :=
  isExplicit c = true → ∃ l, b = .bounded l ∧ (c.memory = .null ∨ c.memory = .ofNumber l.memory) ∧
    (c.files = .null ∨ c.files = .ofNumber l.files) ∧
    (c.time = .null ∨ c.time = .ofNumber l.time)

/-- Limits that can be had are had, for any number of files. -/
theorem resolve_limits (n : Nat) {c : BoundsConfig} (memory : c.memory = .null ∨ c.memory.IsLimit)
    (files : c.files = .null ∨ c.files.IsLimit) (time : c.time = .null ∨ c.time.IsLimit) :
    ∃ b, resolve (.whole n) (some c) = .ok b ∧ (c.unbounded.truthy = true → b = .unbounded) ∧
      (c.unbounded.truthy = false → b.Keeps c) := by
  unfold resolve
  dsimp only
  cases c.unbounded.truthy with
  | true => exact ⟨.unbounded, rfl, fun _ => rfl, nofun⟩
  | false =>
    cases set : isExplicit c with
    | true =>
      obtain ⟨m, one, kept⟩ := positive_orElse "memory_limit_mb" memory (allowance_pos (max n 1)).1
      obtain ⟨f, two, kept'⟩ := positive_orElse "file_limit" files
        (show 0 < max (n : Int) 1 * 2 by omega)
      obtain ⟨t, three, kept''⟩ := positive_orElse "time_limit_s" time (allowance_pos (max n 1)).2
      have made : withFallback (.whole n) c =
          .ok (.bounded ⟨m.1, f.1, t.1, m.2, f.2, t.2⟩) := by
        rw [withFallback_whole, ofValues, one, two, three]
        rfl
      exact ⟨_, made, nofun, fun _ _ => ⟨_, rfl, kept, kept', kept''⟩⟩
    | false =>
      obtain ⟨b, counted⟩ := ofWhole_natCast n
      refine ⟨b, counted, nofun, fun _ set' => ?_⟩
      rw [set] at set'
      cases set'

end Bounds
end Quire
