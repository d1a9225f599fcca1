import Quire.Config
import Quire.Notes

/-! The choice between going through the files one by one and in parallel
batches. -/

namespace Quire

structure Strategy where
  parallel : Bool
  workers : Value
  reason : String

namespace Strategy

def word (parallel : Bool) : String := if parallel then "parallel" else "sequential"

/-- Whether a count is above (or at least) a setting; both must be numbers. -/
def against (count limit : Value) (test : Number → Number → Bool) : Except Mishap Bool :=
  match count.number?, limit.number? with
  | some m, some n => .ok (test n m)
  | _, _ => .error (.badKind ("'>' not supported between instances of '" ++ count.kindName
      ++ "' and '" ++ limit.kindName ++ "'"))

def isAbove (count limit : Value) : Except Mishap Bool := against count limit Number.less

def isAtLeast (count limit : Value) : Except Mishap Bool := against count limit Number.lessEq

def adaptiveReason (count : Value) (above : Bool) (threshold : Value) : String :=
  "adaptive strategy: " ++ count.plain ++ " files " ++ (if above then ">" else "<=") ++ " "
    ++ threshold.plain ++ " threshold"

def ofAdaptive (count : Value) (a : AdaptiveConfig) : Except Mishap Strategy := do
  let above ← isAbove count a.threshold
  return ⟨above, a.workers, adaptiveReason count above a.threshold⟩

def requestedReason (count : Value) (parallel : Bool) (least : Value) : String :=
  if parallel then
    "parallel requested with " ++ count.plain ++ " files (min: " ++ least.plain ++ ")"
  else
    "sequential fallback: parallel requested but " ++ count.plain
      ++ " files is below the minimum of " ++ least.plain

def defaultReason (count : Value) : String :=
  "sequential by default: parallel not requested for " ++ count.plain ++ " files"

/-- Only the truth value itself asks for parallel work. -/
def isRequested (options : Option ProcessingConfig) : Bool :=
  match options with
  | some { parallel := .bool true, .. } => true
  | _ => false

def askedWorkers (options : Option ProcessingConfig) : Value :=
  match options with
  | some p => p.workers
  | none => .null

def ofRequest (count : Value) (options : Option ProcessingConfig) (profile : StrategyProfile) :
    Except Mishap Strategy := do
  let workers := (askedWorkers options).orElse profile.workers
  if !isRequested options then return ⟨false, workers, defaultReason count⟩
  let parallel ← isAtLeast count profile.minFiles
  return ⟨parallel, workers, requestedReason count parallel profile.minFiles⟩

/-- The policy given directly, or else that of the options. -/
def policy (options : Option ProcessingConfig) (adaptive : Option AdaptiveConfig) :
    Except Mishap (Option AdaptiveConfig) :=
  match adaptive, options with
  | some a, _ => .ok (some a)
  | none, some o => o.adaptive.given "max_file_threshold"
  | none, none => .ok none

/-- A policy given directly wins over that of the options, and either over the
plain request. -/
def choose (count : Value) (options : Option ProcessingConfig) (adaptive : Option AdaptiveConfig)
    (profile : StrategyProfile) : Except Mishap Strategy := do
  match ← policy options adaptive with
  | some a => ofAdaptive count a
  | none => ofRequest count options profile

/-- A number without its fraction. -/
def countText (v : Value) : String :=
  match v with
  | .bool b => if b then "1" else "0"
  | .real x => ((x.truncate?).map toString).getD x.text
  | v => v.plain

def note (count : Value) (s : Strategy) : Note :=
  ⟨.debug, "Strategy for " ++ countText count ++ " file(s): " ++ word s.parallel ++ " with "
    ++ countText s.workers ++ " worker(s) (" ++ s.reason ++ ")"⟩

def attempt (count : Value) (options : Option ProcessingConfig) (adaptive : Option AdaptiveConfig)
    (profile : StrategyProfile) : Attempt Strategy := do
  let s ← (choose count options adaptive profile : Except Mishap _)
  Attempt.note .debug (s.note count).text
  return s

/-- What would suit the files, whether or not it was asked for. -/
def isAdvised (count : Value) (adaptive : Option AdaptiveConfig) (profile : StrategyProfile) :
    Except Mishap Bool :=
  match adaptive with
  | some a => isAbove count a.threshold
  | none => isAtLeast count profile.minFiles

def stats (count : Value) (adaptive : Option AdaptiveConfig) (profile : StrategyProfile) :
    Except Mishap Value := do
  let advised ← isAdvised count adaptive profile
  return .record ([("recommended_strategy", .str (word advised)),
    ("min_files_for_parallel", profile.minFiles), ("default_max_workers", profile.workers)]
    ++ (adaptive.map fun a => ("adaptive_threshold", a.threshold)).toList)

end Strategy
end Quire
