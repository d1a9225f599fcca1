import Quire.Config.Reading
import Quire.Value.Parts

/-! Settings taken as they are given: groups of them by their fields, and single
ones by their dotted names. A mapping makes a group where groups of that name
are known; anything else is kept in the place of the group. -/

namespace Quire

/-- A setting among given ones, or its default. -/
def settingOf (es : Entries) (name : String) (default : Value) : Value :=
  (Entries.field? es name).getD default

/-- The fields of a group that is made from a mapping. -/
def groupFields (table : String) (known : List String) (v : Value) : Except Mishap Entries :=
  match v with
  | .map es => do
    Entries.refuseUnknown table known es
    return es
  | v => .error (.badKind ("argument after ** must be a mapping, not " ++ v.kindName))

/-- A group made from a mapping; anything else takes its place. -/
def Section.ofGiven {α : Type} (make : Value → Except Mishap α) (v : Value) :
    Except Mishap (Section α) :=
  match v with
  | .map es => do return .fields (← make (.map es))
  | v => .ok (.other v)

def SourceConfig.ofGiven (v : Value) : Except Mishap SourceConfig := do
  let es ← groupFields table fieldNames v
  return {
    patterns := settingOf es "patterns" (.list [])
    root := .other (settingOf es "root_dir" .null)
    encoding := settingOf es "encoding" (.str "utf-8")
    requireBlock := settingOf es "require_frontmatter" (.bool true) }

def AdaptiveConfig.ofGiven (v : Value) : Except Mishap AdaptiveConfig := do
  let es ← groupFields table fieldNames v
  return {
    workers := settingOf es "base_workers" (.int 4)
    threshold := settingOf es "max_file_threshold" (.int 10) }

def ProcessingConfig.ofGiven (v : Value) : Except Mishap ProcessingConfig := do
  let es ← groupFields table fieldNames v
  return {
    parallel := settingOf es "parallel" (.bool false)
    workers := settingOf es "max_workers" .null
    adaptive := ← Section.ofGiven AdaptiveConfig.ofGiven (settingOf es "adaptive" .null) }

def StrategyProfile.ofGiven (v : Value) : Except Mishap StrategyProfile := do
  let es ← groupFields table fieldNames v
  return {
    minFiles := settingOf es "min_files_for_parallel" (.int 2)
    workers := settingOf es "default_max_workers" (.int 4) }

def BoundsConfig.ofGiven (v : Value) : Except Mishap BoundsConfig := do
  let es ← groupFields table fieldNames v
  return {
    memory := settingOf es "memory_limit_mb" .null
    files := settingOf es "file_limit" .null
    time := settingOf es "time_limit_s" .null
    unbounded := settingOf es "unbounded" (.bool false) }

def LoggingConfig.ofGiven (v : Value) : Except Mishap LoggingConfig := do
  let es ← groupFields table fieldNames v
  return {
    level := settingOf es "level" (.str "INFO")
    propagate := settingOf es "propagate" (.bool false)
    format := settingOf es "fmt" (.str defaultLogFormat)
    logger := settingOf es "logger_name" (.str packageLogger) }

/-- The folder as a path; null takes it away. -/
def RootSetting.ofGiven (v : Value) : Except Mishap RootSetting :=
  match v with
  | .null => .ok (.other .null)
  | v => do return .path (← FileName.ofValue v)

def noSetting (name : String) : Mishap := .noField ("object has no attribute '" ++ name ++ "'")

def SourceConfig.set (s : SourceConfig) (name : String) (v : Value) : Except Mishap SourceConfig :=
  match name with
  | "patterns" => .ok { s with patterns := v }
  | "root_dir" => do return { s with root := ← RootSetting.ofGiven v }
  | "encoding" => .ok { s with encoding := v }
  | "require_frontmatter" => .ok { s with requireBlock := v }
  | _ => .error (noSetting name)

def AdaptiveConfig.set (a : AdaptiveConfig) (name : String) (v : Value) :
    Except Mishap AdaptiveConfig :=
  match name with
  | "base_workers" => .ok { a with workers := v }
  | "max_file_threshold" => .ok { a with threshold := v }
  | _ => .error (noSetting name)

def ProcessingConfig.set (p : ProcessingConfig) (name : String) (v : Value) :
    Except Mishap ProcessingConfig :=
  match name with
  | "parallel" => .ok { p with parallel := v }
  | "max_workers" => .ok { p with workers := v }
  | "adaptive" => do return { p with adaptive := ← Section.ofGiven AdaptiveConfig.ofGiven v }
  | _ => .error (noSetting name)

def StrategyProfile.set (p : StrategyProfile) (name : String) (v : Value) :
    Except Mishap StrategyProfile :=
  match name with
  | "min_files_for_parallel" => .ok { p with minFiles := v }
  | "default_max_workers" => .ok { p with workers := v }
  | _ => .error (noSetting name)

def BoundsConfig.set (b : BoundsConfig) (name : String) (v : Value) : Except Mishap BoundsConfig :=
  match name with
  | "memory_limit_mb" => .ok { b with memory := v }
  | "file_limit" => .ok { b with files := v }
  | "time_limit_s" => .ok { b with time := v }
  | "unbounded" => .ok { b with unbounded := v }
  | _ => .error (noSetting name)

def OutputConfig.set (o : OutputConfig) (name : String) (v : Value) : Except Mishap OutputConfig :=
  match name with
  | "template_path" => .ok { o with template := v }
  | "output_path" => .ok { o with path := v }
  | "format" => .ok { o with format := v }
  | _ => .error (noSetting name)

def LoggingConfig.set (l : LoggingConfig) (name : String) (v : Value) : Except Mishap LoggingConfig :=
  match name with
  | "level" => .ok { l with level := v }
  | "propagate" => .ok { l with propagate := v }
  | "fmt" => .ok { l with format := v }
  | "logger_name" => .ok { l with logger := v }
  | _ => .error (noSetting name)

/-- Sets one field of what must be a group. -/
def Section.set {α : Type} (s : Section α) (set : α → String → Value → Except Mishap α)
    (name : String) (v : Value) : Except Mishap (Section α) := do
  return .fields (← set (← s.get name) name v)

namespace Config

def setTop (c : Config) (name : String) (v : Value) : Except Mishap Config :=
  match name with
  | "schema_path" => .ok { c with schemaPath := v }
  | "mode" => .ok { c with mode := v }
  | "profile_name" => .ok { c with profileName := v }
  | "sources" => do return { c with sources := ← Section.ofGiven SourceConfig.ofGiven v }
  | "profile" => do return { c with profile := ← Section.ofGiven StrategyProfile.ofGiven v }
  | "bounds" => do return { c with bounds := ← Section.ofGiven BoundsConfig.ofGiven v }
  | "processing" => .ok { c with processing := .other v }
  | "output" => .ok { c with output := .other v }
  | "logging" => .ok { c with logging := .other v }
  | _ => .error (noSetting name)

def setAt (c : Config) (path : List String) (v : Value) : Except Mishap Config := do
  match path with
  | ["sources", name] => return { c with sources := ← c.sources.set SourceConfig.set name v }
  | ["processing", name] =>
    return { c with processing := ← c.processing.set ProcessingConfig.set name v }
  | ["processing", "adaptive", name] =>
    let p ← c.processing.get "adaptive"
    return { c with processing := .fields { p with
      adaptive := ← p.adaptive.set AdaptiveConfig.set name v } }
  | ["profile", name] => return { c with profile := ← c.profile.set StrategyProfile.set name v }
  | ["bounds", name] => return { c with bounds := ← c.bounds.set BoundsConfig.set name v }
  | ["output", name] => return { c with output := ← c.output.set OutputConfig.set name v }
  | ["logging", name] => return { c with logging := ← c.logging.set LoggingConfig.set name v }
  | _ => c.setTop (".".intercalate path) v

/-- The settings with the one of that dotted name changed. -/
def set (c : Config) (name : String) (v : Value) : Except Mishap Config :=
  c.setAt (name.splitOn ".") v

end Config
end Quire
