import Quire.Config

/-! Bounds of a run: ceilings for memory, for the number of files and for time,
or none at all. -/

namespace Quire

/-- Ceilings that are not zero or less. -/
structure Limits where
  memory : Number
  files : Number
  time : Number
  memory_open : memory.lessEq (.whole 0) = false
  files_open : files.lessEq (.whole 0) = false
  time_open : time.lessEq (.whole 0) = false

inductive Bounds
  | unbounded
  | bounded (limits : Limits)

def megabyte : Int := 1048576

namespace Limits

def notPositive (name : String) (v : Value) : Fault :=
  .configuration (name ++ " must be a positive number, got " ++ v.shown) none

def Positive : Type := { n : Number // n.lessEq (.whole 0) = false }

/-- A truth value does not count as a number here. -/
def positive (name : String) (v : Value) : Except Fault Positive :=
  let checked := fun n : Number =>
    if h : n.lessEq (.whole 0) = false then .ok ⟨n, h⟩ else .error (notPositive name v)
  match v with
  | .int n => checked (.whole n)
  | .real x => checked (.real x)
  | _ => .error (notPositive name v)

def ofValues (memory files time : Value) : Except Fault Limits := do
  let memory ← positive "memory_limit_mb" memory
  let files ← positive "file_limit" files
  let time ← positive "time_limit_s" time
  return ⟨memory.1, files.1, time.1, memory.2, files.2, time.2⟩

/-- The memory ceiling in bytes. -/
def memoryBytes? (l : Limits) : Option Number := l.memory.mul? (.whole megabyte)

end Limits

namespace Bounds

def kind : Bounds → String
  | .unbounded => "unbounded"
  | .bounded _ => "bounded"

/-- Memory in megabytes and time in seconds that a number of files may take. -/
def allowance (count : Int) : Int × Int :=
  if count < 100 then (500, 10) else if count < 1000 then (1024, 30) else (2048, 120)

theorem allowance_pos (count : Int) : 0 < (allowance count).1 ∧ 0 < (allowance count).2 := by
  unfold allowance
  split
  · decide
  · split <;> decide

theorem whole_open (n : Int) (h : 0 < n) : (Number.whole n).lessEq (.whole 0) = false := by
  rw [Number.lessEq_whole]
  exact decide_eq_false (by omega)

/-- Twice as many files as there are, for at least one file. -/
def limitsFor (count : Int) (h : 0 < count) : Limits where
  memory := .whole (allowance count).1
  files := .whole (count * 2)
  time := .whole (allowance count).2
  memory_open := whole_open _ (allowance_pos count).1
  files_open := whole_open _ (by omega)
  time_open := whole_open _ (allowance_pos count).2

def negativeCount (count : Value) : Fault :=
  .configuration ("file_count must be >= 0, got " ++ count.plain) none

def ofWhole (count : Int) : Except Fault Bounds :=
  if count < 0 then .error (negativeCount (.int count))
  else if h : 0 < count then .ok (.bounded (limitsFor count h))
  else .ok .unbounded

/-- The limits for a count that is no whole number. -/
def limitsForReal (count : Binary64) : Except Fault Limits :=
  let below := fun n : Int => Number.less (.real count) (.whole n)
  let (memory, time) := if below 100 then allowance 1 else if below 1000 then allowance 100
    else allowance 1000
  Limits.ofValues (.int memory) (.real (count.mul (.ofInt 2))) (.int time)

def ofReal (count : Binary64) : Except Fault Bounds := do
  if Number.less (.real count) (.whole 0) then throw (negativeCount (.real count))
  if Number.same (.real count) (.whole 0) then return .unbounded
  return .bounded (← limitsForReal count)

/-- The bounds that go with a number of files. -/
def ofCount : Number → Except Fault Bounds
  | .whole n => ofWhole n
  | .real x => ofReal x

def isExplicit (c : BoundsConfig) : Bool :=
  !c.memory.isNull || !c.files.isNull || !c.time.isNull

/-- The limits for a number of files, of which there is at least one. -/
def fallback : Number → Except Fault Limits
  | .whole n => .ok (limitsFor (max n 1) (by omega))
  | .real x =>
    if Number.less (.real x) (.whole 1) then .ok (limitsFor 1 (by decide)) else limitsForReal x

/-- The limits that are set, and those of the file count for the rest. -/
def withFallback (count : Number) (c : BoundsConfig) : Except Fault Bounds := do
  let rest ← fallback count
  return .bounded (← Limits.ofValues (c.memory.orElse (.ofNumber rest.memory))
    (c.files.orElse (.ofNumber rest.files)) (c.time.orElse (.ofNumber rest.time)))

/-- The bounds for a number of files, as far as settings do not say otherwise. -/
def resolve (count : Number) (config : Option BoundsConfig) : Except Fault Bounds :=
  match config with
  | none => ofCount count
  | some c =>
    if c.unbounded.truthy then .ok .unbounded
    else if isExplicit c then withFallback count c
    else ofCount count

/-- A count of files must be a number. -/
def countOf (v : Value) : Except Mishap Number :=
  match v.number? with
  | some n => .ok n
  | none => .error (.badKind ("'<' not supported between instances of '" ++ v.kindName
      ++ "' and 'int'"))

/-- The count does not matter where nothing is bounded. -/
def resolveFor (count : Value) (config : Option BoundsConfig) : Outcome Bounds := do
  if (config.map fun c => c.unbounded.truthy).getD false then return .unbounded
  resolve (← countOf count) config

end Bounds
end Quire
