import Quire.Bounds
import Quire.Config.Coercion
import Quire.Gauge

/-! A monitor reads the gauges and says how a run stands towards its bounds. It
keeps the readings that it was made with and never changes. -/

namespace Quire

structure Snapshot where
  bytes : Int
  time : Value

/-- Where a run stands: within its bounds, close to the memory ceiling, or
beyond one of the ceilings. -/
inductive Standing
  | within
  | approaching (ratio : Binary64)
  | exceeded (limit detail : String)

structure Monitor where
  bounds : Bounds
  started : Value
  baseline : Snapshot

def tooLarge : Failure := .mishap ⟨.overflow, "int too large to convert to float"⟩

def orTooLarge {α : Type} (a : Option α) : Outcome α :=
  match a with
  | some a => .ok a
  | none => .error tooLarge

namespace Snapshot

/-- Memory is read first, and the clock only if that went well. -/
def take (g : Gauges) : Outcome Snapshot × Gauges :=
  let (memory, g) := g.readMemory
  match memory.bind fun v => (Coercion.wholeNumber v : Except Mishap _) with
  | .error e => (.error e, g)
  | .ok bytes =>
    let (time, g) := g.readClock
    (.ok ⟨bytes, time⟩, g)

def megabytes (bytes : Int) : Outcome Binary64 :=
  orTooLarge ((Number.whole bytes).quotient? (.whole megabyte))

end Snapshot

namespace Monitor

/-- Starts the clock and takes the snapshot to compare with. -/
def create (bounds : Bounds) (g : Gauges) : Outcome Monitor × Gauges :=
  let (started, g) := g.readClock
  let (baseline, g) := Snapshot.take g
  (baseline.map fun s => ⟨bounds, started, s⟩, g)

/-- The time that passed; only numbers have a difference. -/
def since (m : Monitor) (time : Value) : Outcome Number :=
  match time.number?, m.started.number? with
  | some now, some started => orTooLarge (now.sub? started)
  | _, _ => .error (.mishap (.badKind ("unsupported operand type(s) for -: '" ++ time.kindName
      ++ "' and '" ++ m.started.kindName ++ "'")))

def elapsed (m : Monitor) (g : Gauges) : Outcome Number × Gauges :=
  let (now, g) := g.readClock
  (m.since now, g)

/-- Four fifths of the memory ceiling are close to it. -/
def closeRatio : Binary64 := .ofRatio false 4 5

def isClose (ratio : Binary64) : Bool := Number.lessEq (.real closeRatio) (.real ratio)

def fixedText (places : Nat) (n : Number) : Outcome String := orTooLarge (n.fixed? places)

def memoryDetail (l : Limits) (bytes : Int) : Outcome String := do
  return "memory " ++ (← fixedText 1 (.real (← Snapshot.megabytes bytes))) ++ "MB > "
    ++ l.memory.text ++ "MB"

def filesDetail (l : Limits) (processed : Value) : String :=
  "processed " ++ processed.plain ++ " > " ++ l.files.text ++ " files"

def timeDetail (l : Limits) (elapsed : Number) : Outcome String := do
  return "elapsed " ++ (← fixedText 2 elapsed) ++ "s > " ++ l.time.text ++ "s"

/-- Memory is looked at first, then the count, then the time. -/
def standing (m : Monitor) (l : Limits) (processed : Value) (s : Snapshot) : Outcome Standing := do
  let ceiling ← orTooLarge l.memoryBytes?
  if ceiling.less (.whole s.bytes) then
    return .exceeded "memory" (← memoryDetail l s.bytes)
  if l.files.less (← (Bounds.countOf processed : Except Mishap _)) then
    return .exceeded "files" (filesDetail l processed)
  let elapsed ← m.since s.time
  if l.time.less elapsed then
    return .exceeded "time" (← timeDetail l elapsed)
  let ratio ← orTooLarge ((Number.whole s.bytes).quotient? ceiling)
  return if isClose ratio then .approaching ratio else .within

/-- The snapshot taken, and how the run stands after so many results. -/
def check (m : Monitor) (processed : Value) (g : Gauges) : Outcome (Snapshot × Standing) × Gauges :=
  let (snapshot, g) := Snapshot.take g
  (snapshot.bind fun s => match m.bounds with
    | .unbounded => .ok (s, .within)
    | .bounded l => (m.standing l processed s).map (s, ·), g)

/-- What memory may be expected to grow by over a number of results. -/
def expectedGrowth (m : Monitor) (processed : Number) : Outcome Binary64 :=
  (orTooLarge (Number.whole m.baseline.bytes).toReal?).map (·.mul processed.log2)

def growthTrouble (processed : Value) (grown : Int) (allowed : Binary64) : Outcome String := do
  let allowed ← orTooLarge (allowed.div? (.ofInt megabyte))
  return "memory grew " ++ (← fixedText 1 (.real (← Snapshot.megabytes grown)))
    ++ "MB over " ++ processed.plain ++ " items; expected at most " ++ (← fixedText 1 (.real allowed)) ++ "MB"

/-- A complaint about memory that grew more than twice as fast as the logarithm
of the count. -/
def growthSince (m : Monitor) (processed : Value) (count : Number) (s : Snapshot) :
    Outcome (Option String) := do
  let grown := s.bytes - m.baseline.bytes
  let expected ← m.expectedGrowth count
  let allowed := expected.mul (.ofInt 2)
  if Number.less (.real allowed) (.whole grown) then
    return some (← growthTrouble processed grown allowed)
  return none

/-- Up to one result nothing is looked at. -/
def growth (m : Monitor) (processed : Value) (g : Gauges) : Outcome (Option String) × Gauges :=
  match Bounds.countOf processed with
  | .error e => (.error (.mishap e), g)
  | .ok count =>
    if count.lessEq (.whole 1) then (.ok none, g)
    else
      let (snapshot, g) := Snapshot.take g
      (snapshot.bind (m.growthSince processed count), g)

end Monitor
end Quire
