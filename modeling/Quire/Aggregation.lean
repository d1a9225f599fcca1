import Quire.Derivation
import Quire.Notes

/-! From the metadata of many documents to one aggregate. Without a collection
the documents are laid over one another; with one they become its elements.
Derived fields are filled in after that, one declaration after the other, each
seeing what those before it wrote. -/

namespace Quire

structure AggregationReport where
  elements : Nat := 0
  derived : List String := []
  /-- Declarations that were skipped, with the reason. -/
  failed : List (String × String) := []

structure Aggregation where
  data : Entries
  report : AggregationReport

namespace Aggregation

/-- The elements that a document contributes: its mappings at the target when it
holds a list there, otherwise itself. What is no mapping contributes nothing. -/
def contribution (target : String) (document : Value) : Except PathError (List Value) :=
  match document with
  | .map _ => do
    match ← Path.get document target with
    | some (.list xs) => return xs.filter fun x => x.kind = .map
    | _ => return [document]
  | _ => .ok []

/-- How many values a document offers that are no mappings. -/
def dropped (target : String) (document : Value) : Except PathError Nat :=
  match document with
  | .map _ => do
    match ← Path.get document target with
    | some (.list xs) => return (xs.filter fun x => x.kind ≠ .map).length
    | _ => return 0
  | _ => .ok 1

def contributions (target : String) (documents : List Value) : Except PathError (List Value) := do
  return (← documents.mapM (contribution target)).flatten

def droppedNotes (target : String) (count : Nat) : List Note :=
  if count = 0 then []
  else [⟨.debug, s!"Dropped {count} non-object element(s) for " ++ target⟩]

/-- The elements of the collection. Without a collection, or when nothing is
left, the documents stay as they are. -/
def extract (s : Schema) (documents : List Value) : Attempt (List Value) :=
  match s.usableTarget? with
  | none => pure documents
  | some target =>
    match contributions target documents, documents.mapM (dropped target) with
    | .ok elements, .ok counts =>
      let notes := droppedNotes target (counts.foldl (· + ·) 0)
      if elements.isEmpty then
        ⟨notes ++ [⟨.debug, "No object elements for " ++ target ++ "; keeping input as-is"⟩],
          .ok documents⟩
      else ⟨notes, .ok elements⟩
    | .error e, _ => .fail (.mishap e.toMishap)
    | _, .error e => .fail (.mishap e.toMishap)

/-- The aggregate before anything is derived. -/
def gather (target : Option String) (items : List Value) : Except PathError Entries :=
  match target with
  | some target => Path.set [] target (.list (items.filter fun v => v.kind = .map))
  | none => .ok (items.foldl (fun acc v => Entries.update acc (v.map?.getD [])) [])

def failureText (label reason : String) : String :=
  "Skipping derivation rule " ++ label ++ ": " ++ reason

/-- One declaration after the other; those that fail are skipped, and noted by their labels. -/
def derive : Entries → AggregationReport → List Declaration → Attempt Aggregation
  | data, report, [] => Attempt.pure ⟨data, report⟩
  | data, report, d :: rest => do
    let label ← d.label
    match d.apply data with
    | .ok (out, target) => derive out { report with derived := report.derived ++ [target] } rest
    | .error e =>
      Attempt.note .warning (failureText label e.message)
      derive data { report with failed := report.failed ++ [(label, e.message)] } rest

def summary (report : AggregationReport) : String :=
  s!"Aggregated {report.elements} item(s); derived {report.derived.length} field(s); "
    ++ s!"{report.failed.length} rule(s) failed"

/-- What aggregation asks of a schema: the place of the collection, if there is one, and what
is declared to be derived. -/
structure Plan where
  target : Option String
  declarations : List Declaration

namespace Plan

/-- The place of the collection; an empty text counts as none. -/
def target? (p : Plan) : Option String := p.target.filter (· ≠ "")

def attempt (p : Plan) (items : List Value) : Attempt Aggregation := do
  let data ← gather p.target? items
  let a ← derive data { elements := items.length } p.declarations
  Attempt.note .debug (summary a.report)
  return a

def aggregate (p : Plan) (items : List Value) : Outcome Aggregation := (p.attempt items).result

end Plan

def plan (s : Schema) : Plan := ⟨s.target?, s.derivations.map DerivationSpec.declaration⟩

def attempt (s : Schema) (items : List Value) : Attempt Aggregation := (plan s).attempt items

def aggregate (s : Schema) (items : List Value) : Outcome Aggregation := (plan s).aggregate items

end Aggregation
end Quire
