import Quire.Config.Mode

/-! Checking settings. Checking also puts the mode and the output format into
their one form and looks the profile up; what was put in order before a check
failed stays so. -/

namespace Quire

/-- Comparison with a whole number; only numbers compare. -/
def Value.compareInt (v : Value) (test : Number → Number → Bool) (n : Int) : Except Mishap Bool :=
  match v.number? with
  | some m => .ok (test m (.whole n))
  | none => .error (.badKind ("'<' not supported between instances of '" ++ v.kindName
      ++ "' and 'int'"))

def Value.isBelow (v : Value) (n : Int) : Except Mishap Bool := v.compareInt Number.less n

def Value.isAtMost (v : Value) (n : Int) : Except Mishap Bool := v.compareInt Number.lessEq n

def Value.isAtLeast (v : Value) (n : Int) : Except Mishap Bool :=
  v.compareInt (fun a b => b.lessEq a) n

def Value.isBetween (v : Value) (lo hi : Int) : Except Mishap Bool := do
  if ← v.isAtLeast lo then v.isAtMost hi else return false

def refuse (message : String) : Outcome Unit := .error (.fault (.configuration message none))

def refuseIf (test : Except Mishap Bool) (message : String) : Outcome Unit := do
  if ← test then refuse message

namespace StrategyProfile

def check (p : StrategyProfile) : Outcome Unit := do
  if !(← p.minFiles.isBetween 1 100) then
    refuse "profile.min_files_for_parallel must be between 1 and 100."
  if !(← p.workers.isBetween 1 32) then
    refuse "profile.default_max_workers must be between 1 and 32."

end StrategyProfile

namespace AdaptiveConfig

def check (a : AdaptiveConfig) : Outcome Unit := do
  refuseIf (a.workers.isBelow 1) "processing.adaptive.base_workers must be >= 1."
  refuseIf (a.threshold.isBelow 0) "processing.adaptive.max_file_threshold must be >= 0."

end AdaptiveConfig

namespace ProcessingConfig

def check (p : ProcessingConfig) : Outcome Unit := do
  if !p.workers.isNull then
    refuseIf (p.workers.isBelow 1) "processing.max_workers must be >= 1 when set."
  match ← p.adaptive.given "base_workers" with
  | some a => a.check
  | none => return ()

end ProcessingConfig

namespace BoundsConfig

def checkOne (name : String) (limit : Value) : Outcome Unit := do
  if !limit.isNull then
    refuseIf (limit.isAtMost 0)
      ("bounds." ++ name ++ " must be positive when set; got " ++ limit.shown ++ ".")

def check (b : BoundsConfig) : Outcome Unit := do
  checkOne "memory_limit_mb" b.memory
  checkOne "file_limit" b.files
  checkOne "time_limit_s" b.time

end BoundsConfig

namespace Config

def withMode (c : Config) : Outcome Config := do
  if !c.schemaPath.truthy then refuse "schema_path is required."
  return { c with mode := .str (← Mode.ofValue c.mode).name }

def withProfile (c : Config) : Outcome Config := do
  if c.profileName.truthy then
    return { c with profile := .fields (← StrategyProfile.ofPreset c.profileName) }
  else return c

def checkLimits (c : Config) : Outcome Unit := do
  (← c.profile.get "validate").check
  (← c.processing.get "max_workers").check
  (← c.bounds.get "validate").check

/-- `yml` is another name for `yaml`. -/
def outputFormat (v : Value) : Outcome String := do
  let given ← loweredText (v.orElse (.str "json"))
  let format := if given = "yml" then "yaml" else given
  if ["json", "yaml"].contains format then return format
  throw (.fault (.configuration ("output.format must be one of ['json', 'yaml']; got " ++ v.shown
    ++ ".") none))

def withFormat (c : Config) : Outcome Config := do
  let output ← c.output.get "format"
  return { c with output := .fields { output with format := .str (← outputFormat output.format) } }

/-- The settings as far as they were put in order, and whether they hold. -/
def validate (c : Config) : Config × Outcome Unit :=
  match c.withMode with
  | .error e => (c, .error e)
  | .ok c => match c.withProfile with
    | .error e => (c, .error e)
    | .ok c => match c.checkLimits with
      | .error e => (c, .error e)
      | .ok () => match c.withFormat with
        | .error e => (c, .error e)
        | .ok c => (c, .ok ())

end Config
end Quire
