import Quire.Config.Coercion
import Quire.Value.Parts

/-! Arguments laid over settings. What is not given leaves the settings below as
they are; the schema, the patterns, the mode and the output format are always
given. -/

namespace Quire

structure BuildArguments where
  schema : Value
  patterns : Value
  output : Value := .null
  template : Value := .null
  format : Value := .str "json"
  parallel : Value := .bool false
  workers : Value := .null
  mode : Value := .str "full"
  profile : Value := .null

namespace BuildArguments

/-- The names of the arguments that may be left out. -/
def names : List String :=
  ["output_path", "template_path", "output_format", "parallel", "max_workers", "mode",
   "profile_name", "base_config"]

/-- Arguments by their names, beside the schema and the patterns. What is given as
settings below must count as nothing, for none can be given in this way. -/
def ofGiven (schema patterns : Value) (es : Entries) : Except Mishap BuildArguments := do
  Entries.refuseUnknown "build" names es
  let below := (Entries.field? es "base_config").getD .null
  if below.truthy then throw (noAttribute below "schema_path")
  let given := fun (name : String) (default : Value) => (Entries.field? es name).getD default
  return {
    schema, patterns
    output := given "output_path" .null
    template := given "template_path" .null
    format := given "output_format" (.str "json")
    parallel := given "parallel" (.bool false)
    workers := given "max_workers" .null
    mode := given "mode" (.str "full")
    profile := given "profile_name" .null }

def onSources (a : BuildArguments) (c : Config) : Except Mishap Config := do
  let patterns ← a.patterns.members
  let sources ← c.sources.get "patterns"
  return { c with sources := .fields { sources with patterns := .list patterns } }

def textOr (given below : Value) : Value := if given.isNull then below else given.toText

def onOutput (a : BuildArguments) (c : Config) : Except Mishap Config := do
  let output ← c.output.get "format"
  return { c with output := .fields {
    path := textOr a.output output.path
    template := textOr a.template output.template
    format := a.format } }

def onParallel (a : BuildArguments) (c : Config) : Except Mishap Config := do
  if !a.parallel.truthy then return c
  let processing ← c.processing.get "parallel"
  return { c with processing := .fields { processing with parallel := .bool true } }

def onWorkers (a : BuildArguments) (c : Config) : Except Mishap Config := do
  if a.workers.isNull then return c
  let workers ← Coercion.whole a.workers
  let processing ← c.processing.get "max_workers"
  return { c with processing := .fields { processing with workers } }

/-- The settings `below` with the arguments over them. -/
def laidOn (a : BuildArguments) (below : Config) : Except Mishap Config := do
  let c ← a.onSources { below with schemaPath := a.schema.toText }
  let c := { c with
    mode := a.mode
    profileName := if a.profile.truthy then a.profile else c.profileName }
  a.onWorkers (← a.onParallel (← a.onOutput c))

end BuildArguments
end Quire
