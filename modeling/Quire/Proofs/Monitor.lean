import Quire.Proofs.Execution

/-! What a monitor answers. As long as memory is told in whole numbers that
floating point can hold, it has an answer whenever it is looked at, and without
bounds it never stops a run. -/

namespace Quire

namespace Gauges

/-- Gauges after some more readings. -/
structure Later (g after : Gauges) : Prop where
  memory : after.memory.reading = g.memory.reading
  memory_taken : g.memory.taken ≤ after.memory.taken
  clock : after.clock.reading = g.clock.reading
  clock_taken : g.clock.taken ≤ after.clock.taken

theorem Later.refl (g : Gauges) : g.Later g := ⟨rfl, Nat.le_refl _, rfl, Nat.le_refl _⟩

theorem Later.trans {g h k : Gauges} (first : g.Later h) (second : h.Later k) : g.Later k where
  memory := second.memory.trans first.memory
  memory_taken := Nat.le_trans first.memory_taken second.memory_taken
  clock := second.clock.trans first.clock
  clock_taken := Nat.le_trans first.clock_taken second.clock_taken

theorem later_readMemory (g : Gauges) : g.Later g.readMemory.2 :=
  ⟨rfl, Nat.le_succ _, rfl, Nat.le_refl _⟩

theorem later_readClock (g : Gauges) : g.Later g.readClock.2 :=
  ⟨rfl, Nat.le_refl _, rfl, Nat.le_succ _⟩

/-- What the readings of memory are in bytes: whole numbers within the range of
floating point, and so are their differences in megabytes. -/
structure Measures (g : Gauges) (bytes : Nat → Int) : Prop where
  told : ∀ k, ((g.memory.reading k).bind fun v => (Coercion.wholeNumber v : Except Mishap _)) =
    .ok (bytes k)
  real : ∀ k, ((Number.whole (bytes k)).toReal?).isSome = true
  apart : ∀ j k, ((Number.whole (bytes j - bytes k)).quotient? (.whole megabyte)).isSome = true

theorem Measures.later {g after : Gauges} {bytes : Nat → Int} (h : g.Measures bytes)
    (later : g.Later after) : after.Measures bytes where
  told k := by rw [later.memory]; exact h.told k
  real := h.real
  apart := h.apart

theorem Measures.take {g : Gauges} {bytes : Nat → Int} (h : g.Measures bytes) :
    ∃ time after, Snapshot.take g = (.ok ⟨bytes g.memory.taken, time⟩, after) ∧ g.Later after := by
  have told := h.told g.memory.taken
  refine ⟨g.readMemory.2.readClock.1, g.readMemory.2.readClock.2, ?_,
    (later_readMemory g).trans (later_readClock _)⟩
  simp only [Snapshot.take, Gauges.readMemory, Gauge.read, told]

theorem still_measures : still.Measures fun _ => 52428800 where
  told _ := rfl
  real _ := by decide +kernel
  apart _ _ := by decide +kernel

end Gauges

namespace Monitor

open Gauges

theorem orTooLarge_isSome {α : Type} {a : Option α} (some : a.isSome = true) :
    ∃ x, orTooLarge a = .ok x := by
  obtain ⟨x, rfl⟩ := Option.isSome_iff_exists.mp some
  exact ⟨x, rfl⟩

theorem ofInt_megabyte : ∃ n, Binary64.ofInt megabyte = .finite false (n + 1) :=
  ⟨Nat.pow 2 1094 - 1, by decide +kernel⟩

theorem div?_megabyte_isSome (x : Binary64) : (x.div? (.ofInt megabyte)).isSome = true := by
  obtain ⟨n, whole⟩ := ofInt_megabyte
  rw [whole]
  cases x <;> rfl

/-- A complaint can be put in words if the growth can be told in megabytes. -/
theorem growthTrouble_ok {grown : Int}
    (apart : ((Number.whole grown).quotient? (.whole megabyte)).isSome = true)
    (processed : Value) (allowed : Binary64) :
    ∃ text, growthTrouble processed grown allowed = .ok text := by
  obtain ⟨size, told⟩ := orTooLarge_isSome apart
  obtain ⟨limit, divided⟩ := orTooLarge_isSome (div?_megabyte_isSome allowed)
  have measured : Snapshot.megabytes grown = .ok size := told
  unfold growthTrouble
  rw [divided, measured]
  exact ⟨_, rfl⟩

theorem growthSince_ok {m : Monitor} {s : Snapshot}
    (real : ((Number.whole m.baseline.bytes).toReal?).isSome = true)
    (apart :
      ((Number.whole (s.bytes - m.baseline.bytes)).quotient? (.whole megabyte)).isSome = true)
    (processed : Value) (count : Number) :
    ∃ message, m.growthSince processed count s = .ok message := by
  obtain ⟨start, started⟩ := orTooLarge_isSome real
  have expected : m.expectedGrowth count = .ok (start.mul count.log2) := by
    rw [expectedGrowth, started]
    rfl
  unfold growthSince
  rw [expected]
  generalize start.mul count.log2 = growth
  obtain ⟨text, put⟩ := growthTrouble_ok apart processed (growth.mul (.ofInt 2))
  simp only [bind, Except.bind, put]
  split
  · exact ⟨_, rfl⟩
  · exact ⟨_, rfl⟩

theorem create_baseline {g after : Gauges} {m : Monitor} {b : Bounds} {bytes : Nat → Int}
    (measures : g.Measures bytes) (created : create b g = (.ok m, after)) :
    m.bounds = b ∧ m.baseline.bytes = bytes g.memory.taken ∧ g.Later after := by
  obtain ⟨time, next, taken, later⟩ := (measures.later (later_readClock g)).take
  simp only [create, taken, Except.map, Prod.mk.injEq, Except.ok.injEq] at created
  obtain ⟨rfl, rfl⟩ := created
  exact ⟨rfl, rfl, (later_readClock g).trans later⟩

/-- Where memory can be told, a monitor that lets every check pass is calm: it
has an answer to the question of growth as well. -/
theorem watch_calm {g after : Gauges} {m : Monitor} {b : Bounds} {bytes : Nat → Int} {most : Nat}
    (measures : g.Measures bytes) (created : create b g = (.ok m, after))
    (passes : ∀ n < most, ∀ t, after.Later t → ∃ standing, (m.watch.check n t).1 = .ok standing ∧
      ∀ limit detail, standing ≠ .exceeded limit detail) :
    m.watch.Calm after.Later most := by
  obtain ⟨_, started, later⟩ := create_baseline measures created
  refine ⟨fun n bound t sound => ?_, fun n _ _ _ t sound => ?_⟩
  · obtain ⟨now, next, told, further⟩ := ((measures.later later).later sound).take
    obtain ⟨standing, answered, inside⟩ := passes n bound t sound
    refine ⟨standing, (m.watch.check n t).2, Prod.ext answered rfl, inside, sound.trans ?_⟩
    simpa only [Monitor.watch, check, told] using further
  · obtain ⟨now, next, told, further⟩ := ((measures.later later).later sound).take
    simp only [Monitor.watch, growth, Bounds.countOf, Value.number?]
    split
    · exact ⟨none, t, rfl, sound⟩
    · obtain ⟨message, put⟩ := growthSince_ok (m := m) (s := ⟨bytes t.memory.taken, now⟩)
        (by rw [started]; exact measures.real _) (by rw [started]; exact measures.apart _ _)
        (.int n) (.whole n)
      exact ⟨message, next, by simp only [told, Except.bind, put], sound.trans further⟩

/-- Without bounds every check passes. -/
theorem unbounded_calm {g after : Gauges} {m : Monitor} {bytes : Nat → Int}
    (measures : g.Measures bytes) (created : create .unbounded g = (.ok m, after)) (most : Nat) :
    m.watch.Calm after.Later most := by
  obtain ⟨unbounded, _, later⟩ := create_baseline measures created
  refine watch_calm measures created fun n _ t sound => ?_
  obtain ⟨now, next, told, _⟩ := ((measures.later later).later sound).take
  refine ⟨.within, ?_, fun _ _ => Standing.noConfusion⟩
  simp only [Monitor.watch, check, told, unbounded, Except.bind, Except.map]

end Monitor
end Quire
