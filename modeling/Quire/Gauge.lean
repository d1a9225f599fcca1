import Quire.Failure

/-! Gauges that a run may read: memory in use, in bytes, and a clock, in
seconds. A gauge is the sequence of its readings, of which nothing is assumed;
reading memory may fail. -/

namespace Quire

structure Gauge (α : Type) where
  reading : Nat → α
  taken : Nat := 0

namespace Gauge

def read {α : Type} (g : Gauge α) : α × Gauge α := (g.reading g.taken, { g with taken := g.taken + 1 })

/-- The given readings one after another; the last one stays. -/
def ofList {α : Type} (default : α) (readings : List α) : Gauge α :=
  ⟨fun k => (readings[min k (readings.length - 1)]?).getD default, 0⟩

def constant {α : Type} (a : α) : Gauge α := ⟨fun _ => a, 0⟩

@[simp] theorem reading_read {α : Type} (g : Gauge α) : g.read.2.reading = g.reading := rfl

theorem ofList_singleton {α : Type} (default a : α) (k : Nat) :
    (ofList default [a]).reading k = a := by
  simp [ofList]

end Gauge

structure Gauges where
  memory : Gauge (Outcome Value)
  clock : Gauge Value

namespace Gauges

/-- Fifty megabytes in use, and no time passes. -/
def still : Gauges := ⟨.constant (.ok (.int 52428800)), .constant (.int 0)⟩

def readMemory (g : Gauges) : Outcome Value × Gauges :=
  (g.memory.read.1, { g with memory := g.memory.read.2 })

def readClock (g : Gauges) : Value × Gauges :=
  (g.clock.read.1, { g with clock := g.clock.read.2 })

end Gauges
end Quire
