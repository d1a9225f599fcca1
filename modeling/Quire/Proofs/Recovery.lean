import Mathlib.Data.List.Forall2
import Quire.Proofs.Bounds
import Quire.Proofs.Processing

/-! Files that fail are told of one by one, and that is all they do: without them the
others come to the same documents, the same data and the same report. -/

namespace Quire

/-- Files from which some that fail are left out. -/
inductive Pruned (fails : String → Prop) : List String → List String → Prop
  | nil : Pruned fails [] []
  | keep {files kept : List String} (path : String) (rest : Pruned fails files kept) :
      Pruned fails (path :: files) (path :: kept)
  | drop {files kept : List String} {path : String} (bad : fails path)
      (rest : Pruned fails files kept) : Pruned fails (path :: files) kept

/-- A file that comes through is kept. -/
theorem Pruned.mem {fails : String → Prop} {files kept : List String}
    (pruned : Pruned fails files kept) {path : String} (inside : path ∈ files)
    (good : ¬fails path) : path ∈ kept := by
  induction pruned with
  | nil => exact inside
  | keep first rest ih =>
    rcases List.mem_cons.mp inside with rfl | later
    · exact List.mem_cons_self
    · exact List.mem_cons_of_mem _ (ih later)
  | drop bad rest ih =>
    rcases List.mem_cons.mp inside with rfl | later
    · exact absurd bad good
    · exact ih later

namespace Execution

variable {α : Type} {work : String → Attempt α} {files kept : List String}

theorem tryFile_of_ok {path : String} {x : α} (came : (work path).result = .ok x) :
    (tryFile work path).2 = .ok x := by
  simp only [tryFile, came]

theorem tryFile_of_error {path : String} {e : Failure} (failed : (work path).result = .error e) :
    (tryFile work path).2 = .error (e.toFault (some path)) := by
  cases e <;> simp only [tryFile, failed, Failure.toFault]

theorem successes_eq (work : String → Attempt α) (files : List String) :
    successes work files = files.filterMap fun path => (work path).result.toOption := by
  refine List.filterMap_congr fun path _ => ?_
  cases came : (work path).result with
  | ok x =>
    rw [tryFile_of_ok came]
    rfl
  | error e =>
    rw [tryFile_of_error came]
    rfl

end Execution

namespace Pipeline

open Work

/-- What becomes of one file: its document, or why there is none. -/
def fate (p : Pipeline) (tree : FileTree) (rules : Option RuleSet) (path : String) :
    Outcome Document := do
  let some schema := p.schema | .error (.fault noSchema)
  let flatten ← schema.flattenPaths
  ((p.intake tree flatten).process rules (.str path)).result

variable {p : Pipeline} {tree : FileTree} {rules : Option RuleSet}

theorem fate_known {schema : Schema} {flatten : List String} (known : p.schema = some schema)
    (flattened : schema.flattenPaths = .ok flatten) :
    p.fate tree rules = fun path => ((p.intake tree flatten).process rules (.str path)).result := by
  funext path
  simp only [fate, known, flattened]
  rfl

end Pipeline
end Quire
