import Quire.Bounds.Monitor
import Quire.Execution.Pool
import Quire.Notes

/-! Working through files, one by one or in parallel batches. A file that fails
is noted and passed over; the run goes on with the next one. Only bounds that
are exceeded and a run in which no file came through end it. -/

namespace Quire

/-- The results of the files that came through, and the faults of the others. -/
structure Execution (α : Type) where
  results : List α := []
  errors : List Fault := []
  batches : Nat := 0

/-- What was noted on the way, how it ended, and the state it left. -/
structure Trace (σ α : Type) where
  notes : List Note
  outcome : Outcome α
  state : σ

/-- What a run is watched by: how it stands after a number of results, and a
complaint if memory grew too much. -/
structure Watch (σ : Type) where
  check : Nat → σ → Outcome Standing × σ
  growth : Nat → σ → Outcome (Option String) × σ

def Monitor.watch (m : Monitor) : Watch Gauges where
  check n g := let (r, g) := m.check (.int n) g; (r.map (·.2), g)
  growth n g := m.growth (.int n) g

namespace Execution

/-- Memory growth is looked at whenever so many more files came through. -/
def growthInterval : Nat := 100

def exceededBounds (limit path : String) (details : List (String × Value)) : Fault :=
  { kind := .bounds
    message := "Processing exceeded bounds: " ++ limit
    path := some path
    details := ("limit", .str limit) :: details }

def percent (ratio : Binary64) : String := (ratio.mul (.ofInt 100)).fixed 0

/-- One file: its result, or the fault that it is passed over for. -/
def tryFile {α : Type} (work : String → Attempt α) (path : String) : List Note × Except Fault α :=
  let a := work path
  match a.result with
  | .ok x => (a.notes, .ok x)
  | .error (.fault f) =>
    (a.notes ++ [⟨.warning, "Failed to process " ++ path ++ ": " ++ f.message⟩], .error f)
  | .error (.mishap m) =>
    (a.notes ++ [⟨.warning, "Unexpected failure processing " ++ path⟩],
      .error ((Failure.mishap m).wrap (some path)))

def add {α : Type} (done : Execution α) (r : Except Fault α) : Execution α :=
  match r with
  | .ok x => { done with results := done.results ++ [x] }
  | .error f => { done with errors := done.errors ++ [f] }

/-- A run fails with its first fault if it has faults and no result. -/
def survived {α : Type} (e : Execution α) : Attempt (Execution α) :=
  match e.results, e.errors with
  | [], f :: _ =>
    ⟨[⟨.error, "No document survived processing; first error: " ++ f.message⟩], .error (.fault f)⟩
  | _, _ => Attempt.pure e

def summary {α : Type} (how : String) (e : Execution α) : Note :=
  ⟨.info, how ++ s!" processing completed: {e.results.length} successful, "
    ++ s!"{e.errors.length} error(s)"⟩

def closed {σ α : Type} (how : String) (t : Trace σ (Execution α)) : Trace σ (Execution α) :=
  match t.outcome with
  | .error e => ⟨t.notes, .error e, t.state⟩
  | .ok done =>
    let a := survived done
    ⟨t.notes ++ summary how done :: a.notes, a.result, t.state⟩

/-! ### One by one -/

/-- Memory growth is looked at after every hundredth result. -/
def growthNotes {σ : Type} (w : Watch σ) (count : Nat) (grew : Bool) (s : σ) :
    List Note × Outcome Unit × σ :=
  if grew && count % growthInterval = 0 then
    match w.growth count s with
    | (.ok none, s) => ([], .ok (), s)
    | (.ok (some message), s) =>
      ([⟨.warning, "Memory growth warning: " ++ message⟩], .ok (), s)
    | (.error e, s) => ([], .error e, s)
  else ([], .ok (), s)

def standingNotes (approach : String) : Standing → List Note
  | .approaching ratio => [⟨.warning, approach ++ " (" ++ percent ratio ++ "%)"⟩]
  | _ => []

def Trace.after {σ α : Type} (notes : List Note) (t : Trace σ α) : Trace σ α :=
  { t with notes := notes ++ t.notes }

def goSequential {σ α : Type} (w : Watch σ) (work : String → Attempt α) (done : Execution α)
    (s : σ) : List String → Trace σ (Execution α)
  | [] => ⟨[], .ok done, s⟩
  | path :: paths =>
    match w.check done.results.length s with
    | (.error e, s) => ⟨[], .error e, s⟩
    | (.ok (.exceeded limit _), s) =>
      ⟨[], .error (.fault (exceededBounds limit path
        [("processed", .int done.results.length)])), s⟩
    | (.ok standing, s) =>
      let (notes, r) := tryFile work path
      let done := done.add r
      let (growth, grown, s) := growthNotes w done.results.length r.isOk s
      Trace.after (standingNotes "Approaching memory limit" standing ++ notes ++ growth) <|
        match grown with
        | .error e => ⟨[], .error e, s⟩
        | .ok () => goSequential w work done s paths

/-- The files one at a time, in order. -/
def sequential {σ α : Type} (w : Watch σ) (work : String → Attempt α) (files : List String)
    (s : σ) : Trace σ (Execution α) :=
  closed "Sequential"
    (goSequential w work { batches := if files.isEmpty then 0 else 1 } s files)

/-! ### In batches -/

/-- Pieces of a given length; the last one may be shorter. -/
def pieces {α : Type} (size : Nat) (xs : List α) : List (List α) :=
  match xs with
  | [] => []
  | x :: rest =>
    (x :: rest.take (size - 1)) :: pieces size (rest.drop (size - 1))
termination_by xs.length

def batchSize (count workers : Nat) : Nat := (count + workers - 1) / workers

def tooFewWorkers (workers : Value) : Mishap :=
  .badValue ("workers must be a positive integer, got " ++ workers.plain)

/-- The files in consecutive batches of equal size, at most one for a worker. -/
def partition {α : Type} (files : List α) (workers : Int) : Except Mishap (List (List α)) :=
  if workers < 1 then .error (tooFewWorkers (.int workers))
  else .ok (pieces (batchSize files.length workers.toNat) files)

/-- The size of batches for a count of workers that is not whole. -/
def realBatchSize (count : Nat) (workers : Binary64) : Except Mishap Nat :=
  match ((Binary64.ofNat count).div? workers).bind Binary64.ceiling? with
  | some n => .ok n.toNat
  | none => .error (.badValue "cannot convert float NaN to integer")

def partitionReal {α : Type} (files : List α) (workers : Binary64) :
    Except Mishap (List (List α)) := do
  if Number.less (.real workers) (.whole 1) then throw (tooFewWorkers (.real workers))
  if files.isEmpty then return []
  return pieces (← realBatchSize files.length workers) files

/-- Any number counts workers, and a truth value stands for one. -/
def partitionFor {α : Type} (files : List α) (workers : Value) : Except Mishap (List (List α)) :=
  match workers with
  | .int n => partition files n
  | .real x => partitionReal files x
  | .bool true => partition files 1
  | .bool false => .error (tooFewWorkers workers)
  | v => .error (.badKind ("'<' not supported between instances of '" ++ v.kindName
      ++ "' and 'int'"))

/-- Files that can be cut into batches; what counts as nothing has none. -/
def filesOf (v : Value) : Except Mishap (List Value) :=
  match v with
  | .list xs => .ok xs
  | .tuple xs => .ok xs
  | .str _ => v.members
  | .bytes _ => v.members
  | v => if v.truthy then .error (.badKind ("'" ++ v.kindName ++ "' object cannot be cut")) else .ok []

def goBatch {σ α : Type} (w : Watch σ) (work : String → Attempt α) (index : Nat)
    (done : Execution α) (s : σ) : List String → Trace σ (Execution α)
  | [] => ⟨[], .ok done, s⟩
  | path :: paths =>
    match w.check done.results.length s with
    | (.error e, s) => ⟨[], .error e, s⟩
    | (.ok (.exceeded limit detail), s) =>
      ⟨[⟨.warning, s!"Batch {index + 1} stopped: " ++ (if detail = "" then limit else detail)⟩],
        .ok (done.add (.error (exceededBounds limit path [("batch", .int index)]))), s⟩
    | (.ok standing, s) =>
      let (notes, r) := tryFile work path
      Trace.after (standingNotes s!"Approaching memory limit in batch {index + 1}" standing ++ notes)
        (goBatch w work index (done.add r) s paths)

/-- One batch: its files in order, until a bound is exceeded. -/
def batch {σ α : Type} (w : Watch σ) (work : String → Attempt α) (total index : Nat)
    (files : List String) (s : σ) : Trace σ (Execution α) :=
  Trace.after
    [⟨.debug, s!"Processing batch {index + 1}/{total} with {files.length} file(s)"⟩]
    (goBatch w work index { batches := 1 } s files)

/-- All batches, each from the state that the one before it left. -/
def runAll {σ α : Type} (w : Watch σ) (work : String → Attempt α) (total : Nat) :
    List (List String × Nat) → σ → List (Trace σ (Execution α)) × σ
  | [], s => ([], s)
  | (files, index) :: rest, s =>
    let t := batch w work total index files s
    let (ts, s) := runAll w work total rest t.state
    (t :: ts, s)

def outcomeOf {σ α : Type} (parts : List (Trace σ (Execution α))) (index : Nat) :
    Except Failure (Nat × Execution α) :=
  match parts[index]? with
  | some t => t.outcome.map (index, ·)
  | none => .ok (index, {})

/-- The part delivered for a batch. -/
def slot {α : Type} (delivered : List (Nat × Execution α)) (index : Nat) : Execution α :=
  (delivered.lookup index).getD {}

def joined {α : Type} (parts : List (Execution α)) : Execution α where
  results := parts.flatMap (·.results)
  errors := parts.flatMap (·.errors)
  batches := parts.length

/-- Collects the batches as they finish and puts their parts in batch order. -/
def collected {σ α : Type} (order : Pool.Finishing) (parts : List (Trace σ (Execution α))) :
    Outcome (Execution α) := do
  let count := parts.length
  let d ← (Pool.run ⟨count, count⟩ order true (outcomeOf parts) (List.range count) : Except Mishap _)
  match d.raised with
  | some e => throw e
  | none => return joined ((List.range count).map (slot d.results))

def created (batches : List (List String)) (count : Nat) : Note :=
  ⟨.debug, s!"Created {batches.length} batch(es) of up to {(batches.headD []).length} file(s) for "
    ++ s!"{count} file(s)"⟩

/-- The files in concurrent batches, one for a worker. The batches may finish
in any order. -/
def parallel {σ α : Type} (order : Pool.Finishing) (w : Watch σ) (work : String → Attempt α)
    (files : List String) (workers : Value) (s : σ) : Trace σ (Execution α) :=
  match partitionFor files workers with
  | .error e => ⟨[], .error (.mishap e), s⟩
  | .ok [] => ⟨[], .ok {}, s⟩
  | .ok batches =>
    let (parts, s) := runAll w work batches.length batches.zipIdx s
    closed "Parallel" <| Trace.after (created batches files.length :: parts.flatMap (·.notes))
      ⟨[], collected order parts, s⟩

end Execution
end Quire
