import Quire.Aggregation
import Quire.Document
import Quire.Pipeline.State
import Quire.Strategy

/-! What comes out of processing files and of whole runs, and the summaries of
both. -/

namespace Quire

/-- The aggregate of a set of files. Files that failed are among the errors. -/
structure ProcessingOutcome where
  data : Entries
  documents : List Document
  errors : List Fault
  strategy : Strategy
  fileCount : Nat
  report : AggregationReport

namespace ProcessingOutcome

def isDegraded (o : ProcessingOutcome) : Bool := !o.errors.isEmpty

def summaryFields (o : ProcessingOutcome) : List (String × Value) :=
  [("files", .int o.fileCount), ("documents", .int o.documents.length),
   ("errors", .list (o.errors.map Fault.report)),
   ("strategy", .str (Strategy.word o.strategy.parallel)), ("max_workers", o.strategy.workers),
   ("derived_fields", .list (o.report.derived.map .str)),
   ("failed_rules", .list (o.report.failed.map fun f => .str f.1))]

def summary (o : ProcessingOutcome) : Value := .record o.summaryFields

end ProcessingOutcome

/-- How a run ended. -/
structure RunReport where
  ok : Bool
  state : RunState
  output : Option String := none
  outputPath : Option String := none
  outcome : Option ProcessingOutcome := none
  error : Option Fault := none

namespace RunReport

/-- The closing figures, with the time that the run took. -/
def tallyFields (r : RunReport) (milliseconds : Value) : List (String × Value) :=
  match r.state with
  | .completed _ tally =>
    [("execution_time_ms", milliseconds), ("states_traversed", .int tally.states)]
  | _ => []

def pathFields (r : RunReport) : List (String × Value) :=
  match r.outputPath with
  | some path => if path = "" then [] else [("output_path", .str path)]
  | none => []

def summary (r : RunReport) (milliseconds : Value) : Value :=
  .record ([("ok", .bool r.ok), ("state", .str r.state.name)] ++ r.pathFields
    ++ (r.outcome.map ProcessingOutcome.summaryFields).getD []
    ++ (r.error.map fun f => ("error", f.report)).toList ++ r.tallyFields milliseconds)

end RunReport
end Quire
