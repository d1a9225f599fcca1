import Quire.Proofs.Earned
import Quire.Proofs.Frame
import Quire.Proofs.Schema.Rules

/-! Where the elements of a collection come from. A document that is an element itself
was checked by the rules of elements when it was read. One that holds a list at the
place of the collection was checked by the same rules, and gives the mappings in its
list, which were not. -/

namespace Quire

theorem RuleSet.violations_of_validate {s : RuleSet} {data : Entries} {path : Option String}
    (passed : s.validate (.map data) path = .ok ()) : s.violations (.map data) = .ok [] := by
  cases found : s.violations (.map data) with
  | error e =>
    simp only [validate, found] at passed
    cases passed
  | ok violations =>
    rw [validate_map found] at passed
    split at passed
    · next none => rw [none]
    · cases passed

/-- A document is made of the text at its path: its metadata is what was extracted, with
lists flattened, and it passed the rules. -/
theorem Intake.process_eq_ok {i : Intake} {rules : Option RuleSet} {path : Value} {d : Document}
    (taken : (i.process rules path).result = .ok d) :
    ∃ text found, i.read d.path = .ok text ∧ i.extract text d.path = .ok found ∧
      flattenAll i.flatten found.metadata = .ok d.metadata ∧
      validate rules d.metadata d.path = .ok () := by
  obtain ⟨path, _, taken⟩ := Attempt.bind_eq_ok.mp taken
  obtain ⟨_, _, taken⟩ := Attempt.bind_eq_ok.mp taken
  obtain ⟨text, read, taken⟩ := Attempt.bind_eq_ok.mp taken
  obtain ⟨found, extracted, taken⟩ := Attempt.bind_eq_ok.mp taken
  obtain ⟨_, _, taken⟩ := Attempt.bind_eq_ok.mp taken
  obtain ⟨metadata, flattened, taken⟩ := Attempt.bind_eq_ok.mp taken
  obtain ⟨_, passed, taken⟩ := Attempt.bind_eq_ok.mp taken
  obtain rfl := Except.ok.inj taken
  exact ⟨text, found, read, extracted, lift_eq_ok.mp flattened, passed⟩

/-- A document that was taken in by rules has nothing wrong by them. -/
theorem Intake.process_violations {i : Intake} {rules : RuleSet} {path : Value} {d : Document}
    (taken : (i.process (some rules) path).result = .ok d) :
    rules.violations (.map d.metadata) = .ok [] := by
  obtain ⟨_, _, _, _, _, passed⟩ := process_eq_ok taken
  unfold validate at passed
  dsimp only at passed
  split at passed
  · next none =>
    rw [RuleSet.violations, List.isEmpty_iff.mp none]
    rfl
  · exact RuleSet.violations_of_validate passed

namespace Aggregation

variable {s : Schema} {target : String}

/-- A value is a document, or is in a list that one holds at the target. -/
def Offered (target : String) (documents : List Value) (e : Value) : Prop :=
  e ∈ documents ∨
    ∃ d ∈ documents, ∃ xs, Path.get d target = .ok (some (.list xs)) ∧ e ∈ xs

theorem contribution_offered {documents : List Value} {d : Value} (inside : d ∈ documents)
    {elements : List Value} (made : contribution target d = .ok elements) {e : Value}
    (element : e ∈ elements) : Offered target documents e := by
  unfold contribution at made
  split at made
  · obtain ⟨there, got, made⟩ := bind_eq_ok.mp made
    split at made
    · next xs =>
      obtain rfl := Except.ok.inj made
      exact .inr ⟨_, inside, xs, got, (List.mem_filter.mp element).1⟩
    · obtain rfl := Except.ok.inj made
      exact .inl (List.mem_singleton.mp element ▸ inside)
  · obtain rfl := Except.ok.inj made
    cases element

/-- The elements are what the documents contribute, or where that is nothing the
documents themselves. -/
theorem extract_eq_ok (collects : s.usableTarget? = some target) {documents elements : List Value}
    (made : (extract s documents).result = .ok elements) :
    ∃ lists, documents.mapM (contribution target) = .ok lists ∧
      elements = if lists.flatten.isEmpty then documents else lists.flatten := by
  unfold extract at made
  rw [collects] at made
  dsimp only at made
  split at made
  · next contributed _ =>
    obtain ⟨lists, each, flat⟩ := bind_eq_ok.mp contributed
    obtain rfl := Except.ok.inj flat
    refine ⟨lists, each, ?_⟩
    split at made
    · next none =>
      rw [if_pos none]
      exact (Except.ok.inj made).symm
    · next some' =>
      rw [if_neg some']
      exact (Except.ok.inj made).symm
  · cases made
  · cases made

theorem extract_offered (collects : s.usableTarget? = some target) {documents elements : List Value}
    (made : (extract s documents).result = .ok elements) {e : Value} (element : e ∈ elements) :
    Offered target documents e := by
  obtain ⟨lists, each, rfl⟩ := extract_eq_ok collects made
  split at element
  · exact .inl element
  · obtain ⟨list, placed, element⟩ := List.mem_flatten.mp element
    obtain ⟨d, inside, made⟩ := mem_of_mapM each placed
    exact contribution_offered inside made element

/-- Derived fields aside, an aggregate holds the mappings among its elements at the
target, and as many elements are counted as there are. -/
theorem aggregate_gathered (collects : s.usableTarget? = some target)
    (apart : ∀ d ∈ s.derivations, Path.Apart d.target target) {items : List Value}
    {a : Aggregation} (made : aggregate s items = .ok a) :
    ∃ ls, Path.plainKeys target = .ok ls ∧
      Schema.Pointer.descend ls (.map a.data) =
        some (.list (items.filter fun v => v.kind = .map)) ∧
      a.report.elements = items.length := by
  obtain ⟨data, gathered, made⟩ := aggregate_eq_ok.mp made
  rw [collects] at gathered
  obtain ⟨ls, reads, gathered⟩ := bind_eq_ok.mp gathered
  obtain rfl := Except.ok.inj gathered
  refine ⟨ls, reads, ?_, derive_elements made⟩
  rw [derive_apart reads apart made, Path.descend_write_self [] (Path.plainKeys_ne_nil reads)]

/-- The collection holds the mappings among its elements, as nothing is written at its
place after them. -/
theorem aggregate_elements (collects : s.usableTarget? = some target) (spares : s.Spares target)
    {items : List Value} {a : Aggregation} (made : aggregate s items = .ok a) {out : Entries}
    (filled : (Defaults.populate s a.data).result = .ok out) :
    Path.get (.map out) target = .ok (some (.list (items.filter fun v => v.kind = .map))) := by
  obtain ⟨ls, reads, gathered, _⟩ := aggregate_gathered collects spares.derivations made
  rw [Path.get_of_plainKeys reads, Defaults.populate_apart reads spares.baseProperties filled,
    gathered]

end Aggregation

namespace Pipeline

open Work

variable {s : Session} {schema : Schema} {files : List String} {rules : Option RuleSet}
  {bounds : Option Bounds} {options : Option ProcessingConfig} {outcome : ProcessingOutcome}

/-- Documents that were processed were taken in one by one, with the lists flattened that
the schema names, and the data is what they aggregate to. -/
theorem processDocuments_parts (known : s.pipeline.schema = some schema)
    (done : ((processDocuments files rules bounds options).run s).1 = .ok outcome) :
    ∃ flatten, schema.flattenPaths = .ok flatten ∧
      (∀ d ∈ outcome.documents, ∃ path : String,
        ((s.pipeline.intake s.tree flatten).process rules (.str path)).result = .ok d) ∧
      (aggregate schema outcome.documents).result = .ok (outcome.data, outcome.report) := by
  unfold processDocuments at done
  rw [get_bind] at done
  dsimp only at done
  rw [known] at done
  simp only [ofOutcome_bind, gauged_bind, tryOut_bind, say_bind, get_bind] at done
  obtain ⟨b, _, done⟩ := bind_eq_ok.mp done
  obtain ⟨m, _, done⟩ := bind_eq_ok.mp done
  obtain ⟨strategy, _, done⟩ := bind_eq_ok.mp done
  obtain ⟨flatten, flattens, done⟩ := bind_eq_ok.mp done
  rw [run_bind] at done
  obtain ⟨e, ended, done⟩ := bind_eq_ok.mp done
  simp only [tryOut_bind] at done
  obtain ⟨made, aggregated, done⟩ := bind_eq_ok.mp done
  obtain ⟨_, _, done⟩ := bind_eq_ok.mp done
  obtain rfl := Except.ok.inj done
  exact ⟨flatten, flattens, execute_earned ended, aggregated⟩

theorem processDocuments_eq_ok (known : s.pipeline.schema = some schema)
    (done : ((processDocuments files rules bounds options).run s).1 = .ok outcome) :
    (∀ d ∈ outcome.documents, ∃ (i : Intake) (path : String),
      (i.process rules (.str path)).result = .ok d) ∧
    (aggregate schema outcome.documents).result = .ok (outcome.data, outcome.report) := by
  obtain ⟨flatten, _, taken, aggregated⟩ := processDocuments_parts known done
  exact ⟨fun d inside => ⟨_, taken d inside⟩, aggregated⟩

/-- With a collection, and nothing else that is written at, above or below its place,
every document has nothing wrong by the rules of elements. Every element is a document,
and then has nothing wrong either, or is in a list that a document holds at the place of
the collection. -/
theorem processDocuments_elements {target : String} {set : RuleSet}
    (known : s.pipeline.schema = some schema) (collects : schema.usableTarget? = some target)
    (spares : schema.Spares target)
    (done : ((processDocuments files (some set) bounds options).run s).1 = .ok outcome) :
    (∀ d ∈ outcome.documents, set.violations (.map d.metadata) = .ok []) ∧
    ∃ elements, Path.get (.map outcome.data) target = .ok (some (.list elements)) ∧
      ∀ e ∈ elements, set.violations e = .ok [] ∨
        ∃ d ∈ outcome.documents, ∃ xs,
          Path.get (.map d.metadata) target = .ok (some (.list xs)) ∧ e ∈ xs := by
  obtain ⟨taken, aggregated⟩ := processDocuments_eq_ok known done
  have right : ∀ d ∈ outcome.documents, set.violations (.map d.metadata) = .ok [] := by
    intro d inside
    obtain ⟨i, path, taken⟩ := taken d inside
    exact Intake.process_violations taken
  obtain ⟨items, extracted, aggregated⟩ := Attempt.bind_eq_ok.mp aggregated
  obtain ⟨a, made, aggregated⟩ := Attempt.bind_eq_ok.mp aggregated
  obtain ⟨out, filled, aggregated⟩ := Attempt.bind_eq_ok.mp aggregated
  obtain ⟨rfl, _⟩ := Prod.mk.inj (Except.ok.inj aggregated)
  refine ⟨right, _, Aggregation.aggregate_elements collects spares made filled, fun e element => ?_⟩
  rcases Aggregation.extract_offered collects extracted (List.mem_filter.mp element).1 with
    whole | ⟨d, inside, xs, got, nested⟩
  · obtain ⟨d, inside, rfl⟩ := List.mem_map.mp whole
    exact .inl (right d inside)
  · obtain ⟨d', there, rfl⟩ := List.mem_map.mp inside
    exact .inr ⟨d', there, xs, got, nested⟩

/-- Notes have titles, and their titles are gathered in a field of their own. -/
def notes : Schema where
  definition := .record
    [("properties", .record
      [("notes", .record
        [("type", .str "array"), (Schema.Directive.collection, .bool true),
         ("items", .record
          [("required", .list [.str "title"]),
           ("properties", .record [("title", .record [("type", .str "string")])])])]),
       ("titles", .record [(Schema.Directive.derivedFrom, .str "notes[].title")]),
       ("kind", .record
        [(Schema.Directive.baseProperty, .bool true), ("default", .str "notebook")])])]

/-- A note has a title, which is a text. -/
def noteRules : RuleSet where
  rules := [{ path := "title", types := ["string"], required := true }]
  scope := "notes[]"

/-- A session in which every file has the same metadata. -/
def notebook (metadata : Entries) : Session where
  pipeline :=
    { config := {}
      profile := .fields {}
      schema := some notes
      ownSchema := none
      bound := {}
      replacement :=
        { read := some fun _ path => .ok path
          extract := some fun text _ => .ok ⟨metadata, text, "yaml"⟩ }
      renderer := {} }
  tree := ⟨[], []⟩
  gauges := .still

theorem notes_collects : notes.usableTarget? = some "notes" := by with_unfolding_all rfl

theorem notes_rules : notes.rules = .ok noteRules := by
  have items : notes.itemSchema = .ok (some
      [(.str "required", .list [.str "title"]),
       (.str "properties", .record [("title", .record [("type", .str "string")])])]) := by
    with_unfolding_all rfl
  rw [Schema.rules, notes_collects]
  simp only [items]
  with_unfolding_all rfl

theorem notes_spares : notes.Spares "notes" := by
  have there : Path.plainKeys "notes" = .ok ["notes"] := by with_unfolding_all rfl
  constructor
  · have declared : notes.derivations = [⟨.str "notes[].title", "titles", .bool false⟩] := by
      with_unfolding_all rfl
    have titles : Path.plainKeys "titles" = .ok ["titles"] := by with_unfolding_all rfl
    simp [declared, Path.Apart, titles, there]
  · have declared : notes.baseProperties = [⟨"kind", some (.str "notebook")⟩] := by
      with_unfolding_all rfl
    have kind : Path.plainKeys "kind" = .ok ["kind"] := by with_unfolding_all rfl
    simp [declared, Path.Apart, kind, there]

/-- A file with a title is an element itself. -/
theorem processDocuments_elements_titled : ∃ outcome,
    ((processDocuments ["a.md"] (some noteRules) (some .unbounded) none).run
      (notebook [(.str "title", .str "x")])).1 = .ok outcome ∧
    (∀ d ∈ outcome.documents, noteRules.violations (.map d.metadata) = .ok []) ∧
    ∃ elements, Path.get (.map outcome.data) "notes" = .ok (some (.list elements)) ∧
      ∀ e ∈ elements, noteRules.violations e = .ok [] ∨
        ∃ d ∈ outcome.documents, ∃ xs,
          Path.get (.map d.metadata) "notes" = .ok (some (.list xs)) ∧ e ∈ xs := by
  have ran : ∃ outcome, ((processDocuments ["a.md"] (some noteRules) (some .unbounded) none).run
      (notebook [(.str "title", .str "x")])).1 = .ok outcome := by
    with_unfolding_all exact ⟨_, rfl⟩
  obtain ⟨outcome, ran⟩ := ran
  exact ⟨outcome, ran, processDocuments_elements rfl notes_collects notes_spares ran⟩

/-- A file with a title holds a list with a note whose title is a number. The file is
taken in by the rules of notes, and the note becomes an element that breaks them. -/
theorem processDocuments_unruled_note :
    notes.usableTarget? = some "notes" ∧ notes.Spares "notes" ∧ notes.rules = .ok noteRules ∧
    ∃ outcome e,
      ((processDocuments ["a.md"] (some noteRules) (some .unbounded) none).run
        (notebook [(.str "title", .str "x"),
          (.str "notes", .list [.record [("title", .int 5)]])])).1 = .ok outcome ∧
      Path.get (.map outcome.data) "notes" = .ok (some (.list [e])) ∧
      noteRules.violations e = .ok [.wrongType "title" ["string"] "int"] := by
  have ran : ∃ outcome,
      ((processDocuments ["a.md"] (some noteRules) (some .unbounded) none).run
        (notebook [(.str "title", .str "x"),
          (.str "notes", .list [.record [("title", .int 5)]])])).1 = .ok outcome ∧
      Path.get (.map outcome.data) "notes" =
        .ok (some (.list [.record [("title", .int 5)]])) := by
    with_unfolding_all exact ⟨_, rfl, rfl⟩
  obtain ⟨outcome, ran, there⟩ := ran
  refine ⟨notes_collects, notes_spares, notes_rules, outcome, _, ran, there, ?_⟩
  with_unfolding_all rfl

end Pipeline
end Quire
