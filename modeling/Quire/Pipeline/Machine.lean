import Quire.Bounds
import Quire.Gauge
import Quire.Pipeline.State

/-! The machine that takes a run from state to state. It keeps all the states
that it went through and the event of each step; an event that is not accepted
changes nothing. -/

namespace Quire

structure Step where
  source : RunState.Kind
  event : RunEvent.Kind
  target : RunState.Kind
  deriving DecidableEq, Repr

structure Machine where
  state : RunState := .idle
  history : List RunState := [.idle]
  log : List Step := []

namespace RunState

/-- What a run in validation mode has for output. -/
def validationOutput : String := "Validation completed successfully"

/-- The event that a state waits for. -/
def expected : RunState → String
  | .idle => "Initialize"
  | .initializing _ => "LoadSchema"
  | .loadingSchema _ _ => "SchemaLoadComplete"
  | .schemaLoaded _ _ => "ParseFrontmatter"
  | .parsingFrontmatter _ _ _ => "FrontmatterParseComplete"
  | .frontmatterParsed _ _ _ => "ValidateData"
  | .validatingData _ _ _ => "ValidationComplete"
  | .dataValidated _ _ _ => "LoadTemplate"
  | .loadingTemplate _ _ _ _ => "TemplateLoadComplete"
  | .templateLoaded _ _ _ _ => "GenerateOutput"
  | .generatingOutput _ _ _ _ => "OutputGenerationComplete"
  | .outputGenerated _ _ => "Complete"
  | .completed _ _ => "none (terminal state)"
  | .failed _ _ => "none (terminal state)"

def reject (s : RunState) (e : RunEvent) : Outcome RunState :=
  .error (.fault (Fault.rejected s.name s.expected e.name))

/-- Template mode passes over the checking of data. -/
def afterParsing (config schema frontmatter : Cargo) : Outcome RunState := do
  return if (← config.mode) = .templateOnly then .dataValidated config schema frontmatter
    else .validatingData config schema frontmatter

/-- Validation mode is done once the data is checked. -/
def afterValidation (config schema data path : Cargo) : Outcome RunState := do
  return if (← config.mode) = .validationOnly then
      .outputGenerated config (.value (.str validationOutput))
    else .loadingTemplate config schema data path

/-- A reading of memory in megabytes. -/
def megabytes (memory : Value) : Outcome Binary64 :=
  match memory.number? with
  | some n => match n.quotient? (.whole megabyte) with
    | some x => .ok x
    | none => .error (.mishap ⟨.overflow, "int too large to convert to float"⟩)
  | none => .error (.mishap (.badKind ("unsupported operand type(s) for /: '" ++ memory.kindName
      ++ "' and 'int'")))

/-- The closing figures; memory is read once the mode is known. -/
def close (config output : Cargo) (states : Nat) (g : Gauges) : Outcome RunState × Gauges :=
  match config.mode with
  | .error e => (.error e, g)
  | .ok mode =>
    let (memory, g) := g.readMemory
    (do
      return .completed output
        { states
          memory := ← megabytes (← memory)
          validations := if mode = .templateOnly then 0 else 1
          templates := if mode = .validationOnly then 0 else 1 }, g)

/-- The state after an event. Failure is accepted everywhere but at the ends. -/
def next (s : RunState) (e : RunEvent) (states : Nat) (g : Gauges) : Outcome RunState × Gauges :=
  match s, e with
  | .completed _ _, e => (s.reject e, g)
  | .failed _ _, e => (s.reject e, g)
  | s, .fail error => (.ok (.failed error s), g)
  | .idle, .begin config => (.ok (.initializing config), g)
  | .initializing config, .loadSchema path => (.ok (.loadingSchema config path), g)
  | .loadingSchema config _, .schemaLoadComplete schema => (.ok (.schemaLoaded config schema), g)
  | .schemaLoaded config schema, .parseFrontmatter content =>
    (.ok (.parsingFrontmatter config schema content), g)
  | .parsingFrontmatter config schema _, .frontmatterParseComplete data =>
    (.ok (.frontmatterParsed config schema data), g)
  | .frontmatterParsed config schema data, .validateData => (afterParsing config schema data, g)
  | .validatingData config schema _, .validationComplete data =>
    (.ok (.dataValidated config schema data), g)
  | .dataValidated config schema data, .loadTemplate path =>
    (afterValidation config schema data path, g)
  | .loadingTemplate config schema data _, .templateLoadComplete template =>
    (.ok (.templateLoaded config schema data template), g)
  | .templateLoaded config schema data template, .generateOutput =>
    (.ok (.generatingOutput config schema data template), g)
  | .generatingOutput config _ _ _, .outputGenerationComplete output =>
    (.ok (.outputGenerated config output), g)
  | .outputGenerated config output, .complete => close config output states g
  | s, e => (s.reject e, g)

end RunState

/-- What is put to a machine by its name: an event, or a state, which no machine takes. -/
inductive Offer
  | event (e : RunEvent)
  | state (kind : RunState.Kind)

namespace Offer

def ofParts (name : String) (es : Entries) : Except Mishap Offer := do
  match RunEvent.Kind.all.find? fun k => k.name = name with
  | some kind => return .event (← RunEvent.ofParts kind es)
  | none => match RunState.Kind.all.find? fun k => k.name = name with
    | some kind =>
      Entries.checkParts name kind.parts kind.optionalParts es
      return .state kind
    | none => throw (.noField ("no event has the name '" ++ name ++ "'"))

/-- The name stands under `event`, beside the parts. -/
def ofEntries (es : Entries) : Except Mishap Offer := do
  match ← Entries.need es "event" with
  | .str name => ofParts name (Entries.erase es (.str "event"))
  | _ => throw (.badKind "an event is given by its name")

end Offer

namespace Machine

def isComplete (m : Machine) : Bool := m.state.isTerminal

def canProceed (m : Machine) : Bool := !m.isComplete

/-- Back to the first state; all that was kept is forgotten. -/
def reset (_ : Machine) : Machine := {}

def push (m : Machine) (e : RunEvent) (s : RunState) : Machine where
  state := s
  history := m.history ++ [s]
  log := m.log ++ [⟨m.state.kind, e.kind, s.kind⟩]

def transition (m : Machine) (e : RunEvent) (g : Gauges) :
    Outcome RunState × Machine × Gauges :=
  match m.state.next e m.history.length g with
  | (.ok s, g) => (.ok s, m.push e s, g)
  | (.error f, g) => (.error f, m, g)

def refusal (m : Machine) (kind : RunState.Kind) : Failure :=
  .fault (Fault.rejected m.state.name m.state.expected kind.name)

/-- A state is refused as an event out of place is. -/
def accept (m : Machine) (o : Offer) (g : Gauges) : Outcome RunState × Machine × Gauges :=
  match o with
  | .event e => m.transition e g
  | .state kind => (.error (m.refusal kind), m, g)

def stepNote (source target : RunState) (e : RunEvent) : Note :=
  ⟨.debug, "Pipeline state " ++ source.name ++ " -> " ++ target.name ++ " on " ++ e.name⟩

end Machine
end Quire
