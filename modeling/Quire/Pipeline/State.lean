import Quire.Config.Mode
import Quire.Number
import Quire.Schema
import Quire.Template
import Quire.Value.Parts

/-! The states of a run and the events that lead from one to the next. A state
holds what is known by then and nothing else; of what it holds only the mode of
the settings matters for the way ahead. -/

namespace Quire

/-- What events bring and states carry. -/
inductive Cargo
  | value (v : Value)
  | config (c : Config)
  | schema (s : Schema)
  | template (t : Template)

/-- The mode that settings ask for; what has no mode asks for none. -/
def Cargo.modeSetting : Cargo → Value
  | .value (.map es) => (Entries.field? es "mode").getD .null
  | .config c => c.mode
  | _ => .null

def Cargo.mode (c : Cargo) : Outcome Mode := Mode.ofValue c.modeSetting

/-- Why a run failed, and in which state. -/
structure RunError where
  phase : Value
  message : Value
  cause : Option Failure := none

structure RunTally where
  states : Nat
  memory : Binary64
  validations : Nat
  templates : Nat

inductive RunState
  | idle
  | initializing (config : Cargo)
  | loadingSchema (config path : Cargo)
  | schemaLoaded (config schema : Cargo)
  | parsingFrontmatter (config schema content : Cargo)
  | frontmatterParsed (config schema frontmatter : Cargo)
  | validatingData (config schema frontmatter : Cargo)
  | dataValidated (config schema data : Cargo)
  | loadingTemplate (config schema data path : Cargo)
  | templateLoaded (config schema data template : Cargo)
  | generatingOutput (config schema data template : Cargo)
  | outputGenerated (config output : Cargo)
  | completed (output : Cargo) (tally : RunTally)
  | failed (error : RunError) (previous : RunState)

inductive RunEvent
  | begin (config : Cargo)
  | loadSchema (path : Cargo)
  | schemaLoadComplete (schema : Cargo)
  | parseFrontmatter (content : Cargo)
  | frontmatterParseComplete (data : Cargo)
  | validateData
  | validationComplete (data : Cargo)
  | loadTemplate (path : Cargo)
  | templateLoadComplete (template : Cargo)
  | generateOutput
  | outputGenerationComplete (output : Cargo)
  | complete
  | fail (error : RunError)

namespace RunState

inductive Kind
  | idle | initializing | loadingSchema | schemaLoaded | parsingFrontmatter | frontmatterParsed
  | validatingData | dataValidated | loadingTemplate | templateLoaded | generatingOutput
  | outputGenerated | completed | failed
  deriving DecidableEq, Repr

def Kind.name : Kind → String
  | .idle => "Idle"
  | .initializing => "Initializing"
  | .loadingSchema => "LoadingSchema"
  | .schemaLoaded => "SchemaLoaded"
  | .parsingFrontmatter => "ParsingFrontmatter"
  | .frontmatterParsed => "FrontmatterParsed"
  | .validatingData => "ValidatingData"
  | .dataValidated => "DataValidated"
  | .loadingTemplate => "LoadingTemplate"
  | .templateLoaded => "TemplateLoaded"
  | .generatingOutput => "GeneratingOutput"
  | .outputGenerated => "OutputGenerated"
  | .completed => "Completed"
  | .failed => "Failed"

def Kind.all : List Kind :=
  [.idle, .initializing, .loadingSchema, .schemaLoaded, .parsingFrontmatter, .frontmatterParsed,
   .validatingData, .dataValidated, .loadingTemplate, .templateLoaded, .generatingOutput,
   .outputGenerated, .completed, .failed]

/-- The names of the parts that a state of a kind is made of. -/
def Kind.parts : Kind → List String
  | .idle => []
  | .initializing => ["config"]
  | .loadingSchema => ["config", "schema_path"]
  | .schemaLoaded => ["config", "schema"]
  | .parsingFrontmatter => ["config", "schema", "content"]
  | .frontmatterParsed => ["config", "schema", "frontmatter"]
  | .validatingData => ["config", "schema", "frontmatter"]
  | .dataValidated => ["config", "schema", "validated_data"]
  | .loadingTemplate => ["config", "schema", "validated_data", "template_path"]
  | .templateLoaded => ["config", "schema", "validated_data", "template"]
  | .generatingOutput => ["config", "schema", "validated_data", "template"]
  | .outputGenerated => ["config", "output"]
  | .completed => ["result"]
  | .failed => ["error"]

/-- The parts of a state that may be left out. -/
def Kind.optionalParts : Kind → List String
  | .failed => ["previous_state"]
  | _ => []

def kind : RunState → Kind
  | .idle => .idle
  | .initializing _ => .initializing
  | .loadingSchema _ _ => .loadingSchema
  | .schemaLoaded _ _ => .schemaLoaded
  | .parsingFrontmatter _ _ _ => .parsingFrontmatter
  | .frontmatterParsed _ _ _ => .frontmatterParsed
  | .validatingData _ _ _ => .validatingData
  | .dataValidated _ _ _ => .dataValidated
  | .loadingTemplate _ _ _ _ => .loadingTemplate
  | .templateLoaded _ _ _ _ => .templateLoaded
  | .generatingOutput _ _ _ _ => .generatingOutput
  | .outputGenerated _ _ => .outputGenerated
  | .completed _ _ => .completed
  | .failed _ _ => .failed

def name (s : RunState) : String := s.kind.name

/-- The ends of a run accept no event. -/
def isTerminal : RunState → Bool
  | .completed _ _ => true
  | .failed _ _ => true
  | _ => false

/-- What a state carries, each part under its name. -/
def cargo : RunState → List (String × Cargo)
  | .initializing c => [("config", c)]
  | .loadingSchema c p => [("config", c), ("schema_path", p)]
  | .schemaLoaded c s => [("config", c), ("schema", s)]
  | .parsingFrontmatter c s x => [("config", c), ("schema", s), ("content", x)]
  | .frontmatterParsed c s x => [("config", c), ("schema", s), ("frontmatter", x)]
  | .validatingData c s x => [("config", c), ("schema", s), ("frontmatter", x)]
  | .dataValidated c s x => [("config", c), ("schema", s), ("validated_data", x)]
  | .loadingTemplate c s x p =>
    [("config", c), ("schema", s), ("validated_data", x), ("template_path", p)]
  | .templateLoaded c s x t =>
    [("config", c), ("schema", s), ("validated_data", x), ("template", t)]
  | .generatingOutput c s x t =>
    [("config", c), ("schema", s), ("validated_data", x), ("template", t)]
  | .outputGenerated c o => [("config", c), ("output", o)]
  | _ => []

theorem names_cargo (s : RunState) (h : s.isTerminal = false) :
    s.cargo.map (·.1) = s.kind.parts := by
  cases s with
  | completed output tally => cases h
  | failed error previous => cases h
  | _ => rfl

end RunState

namespace RunEvent

inductive Kind
  | begin | loadSchema | schemaLoadComplete | parseFrontmatter | frontmatterParseComplete
  | validateData | validationComplete | loadTemplate | templateLoadComplete | generateOutput
  | outputGenerationComplete | complete | fail
  deriving DecidableEq, Repr

def Kind.name : Kind → String
  | .begin => "Initialize"
  | .loadSchema => "LoadSchema"
  | .schemaLoadComplete => "SchemaLoadComplete"
  | .parseFrontmatter => "ParseFrontmatter"
  | .frontmatterParseComplete => "FrontmatterParseComplete"
  | .validateData => "ValidateData"
  | .validationComplete => "ValidationComplete"
  | .loadTemplate => "LoadTemplate"
  | .templateLoadComplete => "TemplateLoadComplete"
  | .generateOutput => "GenerateOutput"
  | .outputGenerationComplete => "OutputGenerationComplete"
  | .complete => "Complete"
  | .fail => "Fail"

def kind : RunEvent → Kind
  | .begin _ => .begin
  | .loadSchema _ => .loadSchema
  | .schemaLoadComplete _ => .schemaLoadComplete
  | .parseFrontmatter _ => .parseFrontmatter
  | .frontmatterParseComplete _ => .frontmatterParseComplete
  | .validateData => .validateData
  | .validationComplete _ => .validationComplete
  | .loadTemplate _ => .loadTemplate
  | .templateLoadComplete _ => .templateLoadComplete
  | .generateOutput => .generateOutput
  | .outputGenerationComplete _ => .outputGenerationComplete
  | .complete => .complete
  | .fail _ => .fail

def name (e : RunEvent) : String := e.kind.name

def Kind.all : List Kind :=
  [.begin, .loadSchema, .schemaLoadComplete, .parseFrontmatter, .frontmatterParseComplete,
   .validateData, .validationComplete, .loadTemplate, .templateLoadComplete, .generateOutput,
   .outputGenerationComplete, .complete, .fail]

/-- An event that brings one part and nothing else. -/
def bringing (kind : Kind) (es : Entries) (part : String) (make : Cargo → RunEvent) :
    Except Mishap RunEvent := do
  Entries.checkParts kind.name [part] [] es
  return make (.value (← Entries.need es part))

/-- An event that brings nothing. -/
def bare (kind : Kind) (es : Entries) (e : RunEvent) : Except Mishap RunEvent := do
  Entries.checkParts kind.name [] [] es
  return e

/-- An event from what it brings. With a failure only the phase and the message
are looked at. -/
def ofParts (kind : Kind) (es : Entries) : Except Mishap RunEvent :=
  match kind with
  | .begin => bringing kind es "config" .begin
  | .loadSchema => bringing kind es "path" .loadSchema
  | .schemaLoadComplete => bringing kind es "schema" .schemaLoadComplete
  | .parseFrontmatter => bringing kind es "content" .parseFrontmatter
  | .frontmatterParseComplete => bringing kind es "data" .frontmatterParseComplete
  | .validateData => bare kind es .validateData
  | .validationComplete => bringing kind es "validated_data" .validationComplete
  | .loadTemplate => bringing kind es "path" .loadTemplate
  | .templateLoadComplete => bringing kind es "template" .templateLoadComplete
  | .generateOutput => bare kind es .generateOutput
  | .outputGenerationComplete => bringing kind es "output" .outputGenerationComplete
  | .complete => bare kind es .complete
  | .fail => do
    let phase ← Entries.need es "phase"
    return .fail ⟨phase, ← Entries.need es "message", none⟩

end RunEvent
end Quire
