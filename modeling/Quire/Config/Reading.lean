import Quire.Config.Coercion
import Quire.Files.Reader
import Quire.Json.Reader
import Quire.Text.Order
import Quire.Toml.Reader

/-! Settings from mappings and from files in TOML or JSON. -/

namespace Quire

open Coercion

namespace SourceConfig

def table : String := "SourceConfig"

def fieldNames : List String := ["patterns", "root_dir", "encoding", "require_frontmatter"]

def ofValue (v : Value) : Outcome SourceConfig := do
  let es ← entriesOf table v
  return {
    patterns := ← value table es "patterns" (.list []) texts
    root := ← field table es "root_dir" (.other .null) (.other .null) fun v => do
      return .path (← (FileName.ofValue v : Except Mishap _))
    encoding := ← value table es "encoding" (.str "utf-8") text
    requireBlock := ← value table es "require_frontmatter" (.bool true) flag }

end SourceConfig

namespace AdaptiveConfig

def table : String := "AdaptiveConfig"

def fieldNames : List String := ["base_workers", "max_file_threshold"]

def ofValue (v : Value) : Outcome AdaptiveConfig := do
  let es ← entriesOf table v
  return {
    workers := ← value table es "base_workers" (.int 4) whole
    threshold := ← value table es "max_file_threshold" (.int 10) whole }

end AdaptiveConfig

namespace ProcessingConfig

def table : String := "ProcessingConfig"

def fieldNames : List String := ["parallel", "max_workers", "adaptive"]

def ofValue (v : Value) : Outcome ProcessingConfig := do
  let es ← entriesOf table v
  return {
    parallel := ← value table es "parallel" (.bool false) flag
    workers := ← value table es "max_workers" .null whole
    adaptive := ← inner table es "adaptive" (.other .null) AdaptiveConfig.ofValue }

end ProcessingConfig

namespace StrategyProfile

def table : String := "StrategyProfile"

def fieldNames : List String := ["min_files_for_parallel", "default_max_workers"]

def ofValue (v : Value) : Outcome StrategyProfile := do
  let es ← entriesOf table v
  return {
    minFiles := ← value table es "min_files_for_parallel" (.int 2) whole
    workers := ← value table es "default_max_workers" (.int 4) whole }

end StrategyProfile

namespace BoundsConfig

def table : String := "BoundsConfig"

def fieldNames : List String := ["memory_limit_mb", "file_limit", "time_limit_s", "unbounded"]

def ofValue (v : Value) : Outcome BoundsConfig := do
  let es ← entriesOf table v
  return {
    memory := ← value table es "memory_limit_mb" .null real
    files := ← value table es "file_limit" .null whole
    time := ← value table es "time_limit_s" .null real
    unbounded := ← value table es "unbounded" (.bool false) flag }

end BoundsConfig

namespace OutputConfig

def table : String := "OutputConfig"

def fieldNames : List String := ["template_path", "output_path", "format"]

def ofValue (v : Value) : Outcome OutputConfig := do
  let es ← entriesOf table v
  return {
    template := ← value table es "template_path" .null text
    path := ← value table es "output_path" .null text
    format := ← value table es "format" (.str "json") text }

end OutputConfig

namespace LoggingConfig

def table : String := "LoggingConfig"

def fieldNames : List String := ["level", "propagate", "fmt", "logger_name"]

def ofValue (v : Value) : Outcome LoggingConfig := do
  let es ← entriesOf table v
  return {
    level := ← value table es "level" (.str "INFO") anything
    propagate := ← value table es "propagate" (.bool false) flag
    format := ← value table es "fmt" (.str defaultLogFormat) text
    logger := ← value table es "logger_name" (.str packageLogger) text }

end LoggingConfig

namespace Config

def table : String := "DocweaveConfig"

def fieldNames : List String :=
  ["schema_path", "mode", "profile_name", "sources", "processing", "profile", "bounds", "output",
   "logging"]

/-- The names of the settings in a table, by the name of the table. -/
def tables : List (String × List String) :=
  [(table, fieldNames), (SourceConfig.table, SourceConfig.fieldNames),
   (AdaptiveConfig.table, AdaptiveConfig.fieldNames),
   (ProcessingConfig.table, ProcessingConfig.fieldNames),
   (StrategyProfile.table, StrategyProfile.fieldNames),
   (BoundsConfig.table, BoundsConfig.fieldNames), (OutputConfig.table, OutputConfig.fieldNames),
   (LoggingConfig.table, LoggingConfig.fieldNames)]

def inOrder (names : List String) : List String :=
  names.mergeSort fun a b => !Text.comesBefore b a

def unsupported (label : String) (unknown allowed : List String) : Fault :=
  .configuration ("Unsupported options for " ++ label ++ ": " ++ ", ".intercalate (inOrder unknown)
    ++ ". Allowed keys: " ++ ", ".intercalate (inOrder allowed)) none

/-- Refuses options that are not among the allowed ones. Unknown options whose
name is no text cannot even be told. -/
def checkNames (label : String) (allowed : List String) (options : Value) : Outcome Unit :=
  if !options.truthy then .ok ()
  else match options with
    | .map es =>
      let unknown := (Entries.keys es).filter fun k => !allowed.any fun name => k.same (.str name)
      if unknown.isEmpty then .ok ()
      else if unknown.all fun k => k.str?.isSome then
        .error (.fault (unsupported label (unknown.filterMap Value.str?) allowed))
      else .error (.mishap (.badKind "sequence item: expected str instance"))
    | v => .error (.mishap (noAttribute v "keys"))

/-- Settings from a mapping, in the order in which they are declared. -/
def ofValue (v : Value) : Outcome Config := do
  checkNames "docweave config" fieldNames v
  let es ← entriesOf table v
  return {
    schemaPath := ← value table es "schema_path" .null text
    mode := ← value table es "mode" (.str "full") text
    profileName := ← value table es "profile_name" .null text
    sources := ← inner table es "sources" (.fields {}) SourceConfig.ofValue
    processing := ← inner table es "processing" (.fields {}) ProcessingConfig.ofValue
    profile := ← inner table es "profile" (.fields {}) StrategyProfile.ofValue
    bounds := ← inner table es "bounds" (.fields {}) BoundsConfig.ofValue
    output := ← inner table es "output" (.fields {}) OutputConfig.ofValue
    logging := ← inner table es "logging" (.fields {}) LoggingConfig.ofValue }

def badForm (format : String) (n : FileName) (reason : String) : Failure :=
  .fault (.configuration ("Invalid " ++ format ++ " config " ++ n.text ++ ": " ++ reason)
    (some n.text))

def ofToml (t : FileTree) (n : FileName) : Outcome Config :=
  match t.read n with
  | .error e => .error (.mishap (e.toMishap n.text))
  | .ok bytes => match Encoding.decode .utf8 bytes with
    | .error e => .error (.mishap ⟨.undecodable, e.message⟩)
    | .ok s => match Toml.read s with
      | .ok es => ofValue (.map es)
      | .error e => .error (match e.mishap? with
        | some m => .mishap m
        | none => badForm "TOML" n e.message)

def ofJson (t : FileTree) (n : FileName) : Outcome Config :=
  match t.readText n with
  | .error m =>
    if m.kind.isValue then .error (badForm "JSON" n m.text) else .error (.mishap m)
  | .ok s => match Json.read s with
    | .error e => .error (match e.mishap? with
      | some m => .mishap m
      | none => badForm "JSON" n e.message)
    | .ok (.map es) => ofValue (.map es)
    | .ok v => .error (.fault (.configuration
        ("Top-level JSON document must be an object; got " ++ v.kindName ++ ".") none))

/-- A path as seen from a folder, unless it is absolute or counts as nothing. -/
def fromFolder (base : FileName) (path : Value) : Value :=
  match path with
  | .str s =>
    if s = "" ∨ (FileName.ofString s).isAbsolute then path
    else .str (base.join (FileName.ofString s)).text
  | v => v

def rootFrom (base : FileName) (root : RootSetting) : RootSetting :=
  .path ((root.name?.map base.join).getD base)

/-- Relative paths in a file are meant from the folder of the file. -/
def settle (base : FileName) (c : Config) : Except Mishap Config := do
  let sources ← c.sources.get "root_dir"
  let output ← c.output.get "template_path"
  return { c with
    schemaPath := fromFolder base c.schemaPath
    sources := .fields { sources with root := rootFrom base sources.root }
    output := .fields { output with
      template := fromFolder base output.template
      path := fromFolder base output.path } }

/-- Only a name that is too long is worse than one that no file has. -/
def fileExists (t : FileTree) (n : FileName) : Except Mishap Bool :=
  if (FileTree.refuseName n.text).isOk then
    match t.locate n with
    | .ok place => .ok (t.isFile place)
    | .error .tooLong => .error (FileTree.Trouble.tooLong.toMishap n.text)
    | .error _ => .ok false
  else .ok false

/-- Settings from a file, by its ending. -/
def load (t : FileTree) (n : FileName) : Outcome Config := do
  if !(← (fileExists t n : Except Mishap _)) then
    throw (.fault (.configuration ("Config file not found: " ++ n.text) (some n.text)))
  let c ← match Text.lower n.suffix with
    | ".toml" => ofToml t n
    | ".json" => ofJson t n
    | _ => throw (.fault (.configuration ("Unsupported config extension " ++ Text.quoted n.suffix
        ++ "; expected .toml or .json.") none))
  return ← (c.settle n.parent : Except Mishap _)

end Config
end Quire
