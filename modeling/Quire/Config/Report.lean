import Quire.Config
import Quire.Files.Reader
import Quire.Json.Writer

/-! Settings as a mapping again. Null settings are left out, and so is what has
no plain form. -/

namespace Quire

namespace Value

mutual

/-- The form that a report can hold, if there is one. -/
def reported? : Value → Option Value
  | .str s => some (.str s)
  | .bool b => some (.bool b)
  | .int n => some (.int n)
  | .real x => some (.real x)
  | .list xs => some (.list (reportedItems xs))
  | .tuple xs => some (.list (reportedItems xs))
  | .map es => some (.map (Entries.ofList (reportedFields es)))
  | _ => none

def reportedItems : List Value → List Value
  | [] => []
  | x :: xs => (reported? x).getD .null :: reportedItems xs

def reportedFields : List (Value × Value) → List (Value × Value)
  | [] => []
  | (k, v) :: es => ((reported? v).map fun w => (k.toText, w)).toList ++ reportedFields es

end

end Value

/-- A record of the fields that have a reported form. -/
def reportOf (fields : List (String × Value)) : Value :=
  .record (fields.filterMap fun f => f.2.reported?.map fun v => (f.1, v))

def Section.report {α : Type} (s : Section α) (f : α → Value) : Value :=
  match s with
  | .fields a => f a
  | .other v => v

def RootSetting.report : RootSetting → Value
  | .path n => .str n.text
  | .other v => v

def SourceConfig.report (s : SourceConfig) : Value :=
  reportOf [("patterns", s.patterns),
    ("root_dir", s.root.report),
    ("encoding", s.encoding), ("require_frontmatter", s.requireBlock)]

def AdaptiveConfig.report (a : AdaptiveConfig) : Value :=
  reportOf [("base_workers", a.workers), ("max_file_threshold", a.threshold)]

def ProcessingConfig.report (p : ProcessingConfig) : Value :=
  reportOf [("parallel", p.parallel), ("max_workers", p.workers),
    ("adaptive", p.adaptive.report AdaptiveConfig.report)]

def StrategyProfile.report (p : StrategyProfile) : Value :=
  reportOf [("min_files_for_parallel", p.minFiles), ("default_max_workers", p.workers)]

def BoundsConfig.report (b : BoundsConfig) : Value :=
  reportOf [("memory_limit_mb", b.memory), ("file_limit", b.files), ("time_limit_s", b.time),
    ("unbounded", b.unbounded)]

def OutputConfig.report (o : OutputConfig) : Value :=
  reportOf [("template_path", o.template), ("output_path", o.path), ("format", o.format)]

def LoggingConfig.report (l : LoggingConfig) : Value :=
  reportOf [("level", l.level), ("propagate", l.propagate), ("fmt", l.format),
    ("logger_name", l.logger)]

def Config.report (c : Config) : Value :=
  reportOf [("schema_path", c.schemaPath), ("mode", c.mode), ("profile_name", c.profileName),
    ("sources", c.sources.report SourceConfig.report),
    ("processing", c.processing.report ProcessingConfig.report),
    ("profile", c.profile.report StrategyProfile.report),
    ("bounds", c.bounds.report BoundsConfig.report),
    ("output", c.output.report OutputConfig.report),
    ("logging", c.logging.report LoggingConfig.report)]

/-- The indent of a level: text as it is, or so many spaces; with null all stands on
one line. -/
def indentUnit (v : Value) : Except Mishap (Option String) :=
  let spaces := fun n : Int => some (String.ofList (List.replicate n.toNat ' '))
  match v with
  | .null => .ok none
  | .str s => .ok (some s)
  | .int n => .ok (spaces n)
  | .bool b => .ok (spaces (if b then 1 else 0))
  | v => .error (.badKind ("can't multiply sequence by non-int of type '" ++ v.kindName ++ "'"))

/-- The written form, with the settings in the order of their names. -/
def Config.toJson (c : Config) (indent : Value) : Except Mishap String := do
  Json.write ⟨← indentUnit indent, true, true, false⟩ c.report

/-- Writes the settings to a file and tells what was written. -/
def Config.save (c : Config) (indent : Value) (t : FileTree) (n : FileName) :
    FileTree × Except Mishap String :=
  match c.toJson indent with
  | .error e => (t, .error e)
  | .ok text =>
    let (t, done) := t.replaceText n text
    (t, done.map fun _ => text)

end Quire
