import Quire.Proofs.Collection

/-! What the documents of a collection contribute to it. Each gives the mappings in the
list that it holds at the place of the collection, or else its own metadata; laid end to
end in the order of the documents these are the collection, and neither derived fields
nor defaults change it. -/

namespace Quire

namespace Aggregation

variable {s : Schema} {target : String}

/-- The mappings in the list that metadata holds at the target, or else all of it. -/
def contributed (target : String) (metadata : Entries) : List Value :=
  match Path.get (.map metadata) target with
  | .ok (some (.list xs)) => xs.filter fun x => x.kind = .map
  | _ => [.map metadata]

theorem contribution_map {ls : List String} (reads : Path.plainKeys target = .ok ls)
    (metadata : Entries) :
    contribution target (.map metadata) = .ok (contributed target metadata) := by
  have got := Path.get_of_plainKeys reads (.map metadata)
  simp only [contribution, contributed, got]
  cases Schema.Pointer.descend ls (.map metadata) with
  | none => rfl
  | some v => cases v <;> rfl

theorem contributions_maps {ls : List String} (reads : Path.plainKeys target = .ok ls)
    (metadata : List Entries) :
    (metadata.map Value.map).mapM (contribution target) =
      .ok (metadata.map (contributed target)) := by
  induction metadata with
  | nil => rfl
  | cons first rest ih =>
    exact mapM_cons_eq_ok.mpr ⟨_, _, contribution_map reads first, ih, rfl⟩

theorem kind_of_contributed {metadata : Entries} {e : Value}
    (element : e ∈ contributed target metadata) : e.kind = .map := by
  unfold contributed at element
  split at element
  · simpa using (List.mem_filter.mp element).2
  · rw [List.mem_singleton.mp element]
    rfl

/-- Metadata that contributes something is gathered as what all of it contributes. -/
theorem extract_maps (collects : s.usableTarget? = some target) {ls : List String}
    (reads : Path.plainKeys target = .ok ls) (metadata : List Entries)
    (contributes : metadata = [] ∨ ∃ es ∈ metadata, contributed target es ≠ [])
    {elements : List Value}
    (made : (extract s (metadata.map Value.map)).result = .ok elements) :
    elements = metadata.flatMap (contributed target) := by
  obtain ⟨lists, each, rfl⟩ := extract_eq_ok collects made
  obtain rfl := Except.ok.inj ((contributions_maps reads metadata).symm.trans each)
  rw [← List.flatMap_def]
  split
  · next none =>
    have none := List.flatMap_eq_nil_iff.mp (List.isEmpty_iff.mp none)
    rcases contributes with rfl | ⟨es, inside, offered⟩
    · rfl
    · exact absurd (none es inside) offered
  · rfl

end Aggregation

namespace Pipeline

open Aggregation (contributed)

variable {s : Session} {schema : Schema} {files : List String} {rules : Option RuleSet}
  {bounds : Option Bounds} {options : Option ProcessingConfig} {outcome : ProcessingOutcome}

/-- What documents contribute, laid end to end. -/
def collection (target : String) (documents : List Document) : List Value :=
  documents.flatMap fun d => contributed target d.metadata

theorem mappings_of_collection {target : String} {documents : List Document} :
    ((collection target documents).filter fun v => v.kind = .map) =
      collection target documents := by
  refine List.filter_eq_self.mpr fun e inside => ?_
  obtain ⟨d, _, element⟩ := List.mem_flatMap.mp inside
  simpa using Aggregation.kind_of_contributed element

/-- What documents contribute is at the target before defaults are filled in and after. -/
theorem aggregate_collects {target : String} (collects : schema.usableTarget? = some target)
    (derivations : ∀ d ∈ schema.derivations, Path.Apart d.target target)
    (defaults : ∀ b ∈ schema.baseProperties, ¬Path.Below b.path target)
    {documents : List Document}
    (contributes : documents = [] ∨ ∃ d ∈ documents, contributed target d.metadata ≠ [])
    {data : Entries} {report : AggregationReport}
    (made : (aggregate schema documents).result = .ok (data, report)) :
    ∃ a, Aggregation.aggregate schema (collection target documents) = .ok a ∧
      Path.get (.map a.data) target = .ok (some (.list (collection target documents))) ∧
      (Defaults.populate schema a.data).result = .ok data ∧
      Path.get (.map data) target = .ok (some (.list (collection target documents))) ∧
      report.elements = (collection target documents).length := by
  obtain ⟨items, extracted, made⟩ := Attempt.bind_eq_ok.mp made
  obtain ⟨a, attempted, made⟩ := Attempt.bind_eq_ok.mp made
  obtain ⟨out, filled, made⟩ := Attempt.bind_eq_ok.mp made
  obtain ⟨rfl, rfl⟩ := Prod.mk.inj (Except.ok.inj made)
  obtain ⟨ls, reads, gathered, counted⟩ :=
    Aggregation.aggregate_gathered collects derivations attempted
  obtain rfl : items = collection target documents := by
    have laid := Aggregation.extract_maps collects reads (documents.map Document.metadata)
      (by simpa using contributes) (by simpa [Function.comp_def] using extracted)
    rwa [List.flatMap_map] at laid
  rw [mappings_of_collection] at gathered
  refine ⟨a, attempted, ?_, filled, ?_, counted⟩
  · rw [Path.get_of_plainKeys reads, gathered]
  · rw [Path.get_of_plainKeys reads, Defaults.populate_keeps reads defaults gathered filled]

/-- With a collection, no derived field at, above or below its place and no default below
it, the collection is what the documents contribute, one after the other, and is counted
as such. Derived fields are filled in beside it, and so are defaults. Each document has
the metadata of its file, with lists flattened. -/
theorem processDocuments_concatenates {target : String}
    (known : s.pipeline.schema = some schema) (collects : schema.usableTarget? = some target)
    (derivations : ∀ d ∈ schema.derivations, Path.Apart d.target target)
    (defaults : ∀ b ∈ schema.baseProperties, ¬Path.Below b.path target)
    (done : ((processDocuments files rules bounds options).run s).1 = .ok outcome)
    (contributes : outcome.documents = [] ∨
      ∃ d ∈ outcome.documents, contributed target d.metadata ≠ []) :
    (∃ flatten, schema.flattenPaths = .ok flatten ∧ ∀ d ∈ outcome.documents, ∃ text found,
      s.pipeline.sources.read s.tree d.path = .ok text ∧
      s.pipeline.sources.extract text d.path = .ok found ∧
      Intake.flattenAll flatten found.metadata = .ok d.metadata) ∧
    ∃ a, Aggregation.aggregate schema (collection target outcome.documents) = .ok a ∧
      Path.get (.map a.data) target = .ok (some (.list (collection target outcome.documents))) ∧
      (Defaults.populate schema a.data).result = .ok outcome.data ∧
      Path.get (.map outcome.data) target =
        .ok (some (.list (collection target outcome.documents))) ∧
      outcome.report.elements = (collection target outcome.documents).length := by
  obtain ⟨flatten, flattens, taken, aggregated⟩ := processDocuments_parts known done
  refine ⟨⟨flatten, flattens, fun d inside => ?_⟩,
    aggregate_collects collects derivations defaults contributes aggregated⟩
  obtain ⟨path, taken⟩ := taken d inside
  obtain ⟨text, found, read, extracted, flattened, _⟩ := Intake.process_eq_ok taken
  exact ⟨text, found, read, extracted, flattened⟩

/-- One file holds a list with a note and a number; any other file is a note. -/
def desk : Session where
  pipeline :=
    { (notebook []).pipeline with
      replacement :=
        { read := some fun _ path => .ok path
          extract := some fun text path =>
            if path = "a.md" then
              .ok ⟨[(.str "notes", .list [.record [("title", .str "x")], .int 5])], text, "yaml"⟩
            else .ok ⟨[(.str "title", .str path)], text, "yaml"⟩ } }
  tree := ⟨[], []⟩
  gauges := .still

theorem processDocuments_concatenates_desk : ∃ outcome,
    ((processDocuments ["b.md", "a.md", "c.md"] none (some .unbounded) none).run desk).1 =
      .ok outcome ∧
    Path.get (.map outcome.data) "notes" = .ok (some (.list
      [.record [("title", .str "b.md")], .record [("title", .str "x")],
       .record [("title", .str "c.md")]])) ∧
    outcome.report.elements = 3 := by
  have ran : ∃ outcome,
      ((processDocuments ["b.md", "a.md", "c.md"] none (some .unbounded) none).run desk).1 =
        .ok outcome ∧
      outcome.documents.map Document.metadata =
        [[(.str "title", .str "b.md")],
         [(.str "notes", .list [.record [("title", .str "x")], .int 5])],
         [(.str "title", .str "c.md")]] := by
    with_unfolding_all exact ⟨_, rfl, rfl⟩
  obtain ⟨outcome, ran, documents⟩ := ran
  have laid : collection "notes" outcome.documents =
      [.record [("title", .str "b.md")], .record [("title", .str "x")],
       .record [("title", .str "c.md")]] := by
    rw [collection, ← List.flatMap_map Document.metadata, documents]
    with_unfolding_all rfl
  have contributes : ∃ d ∈ outcome.documents, contributed "notes" d.metadata ≠ [] := by
    obtain ⟨d, inside, element⟩ := List.mem_flatMap.mp (laid ▸ List.mem_cons_self)
    exact ⟨d, inside, List.ne_nil_of_mem element⟩
  obtain ⟨_, _, _, _, _, there, counted⟩ := processDocuments_concatenates rfl notes_collects
    notes_spares.derivations (fun b inside => (notes_spares.baseProperties b inside).not_below)
    ran (.inr contributes)
  rw [laid] at there counted
  exact ⟨outcome, ran, there, counted⟩

end Pipeline
end Quire
