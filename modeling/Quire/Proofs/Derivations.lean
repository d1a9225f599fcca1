import Quire.Aggregation
import Quire.Proofs.Path

/-! Declared derivations, each of them checked and carried out after those before it. One that
is refused is skipped, one that is accepted can be carried out on any data, and both are
entered in the report. -/

namespace Quire

/-- A derivation comes of two texts, a path to read and one that names a place to write. -/
theorem Derivation.create_eq_ok {source target unique : Value} {rule : Derivation} :
    create source target unique = .ok rule ↔
      ∃ p q, source = .str p ∧ target = .str q ∧ (∃ segments, Path.parse p = .ok segments) ∧
        (∃ ks, Path.plainKeys q = .ok ks) ∧ rule = ⟨Text.strip p, Text.strip q, unique.truthy⟩ := by
  constructor
  · intro made
    unfold create at made
    split at made
    · cases made
    · cases made
    · next p q named named' =>
      have text {v : Value} {t : String} (named : nonBlank v = some t) : v = .str t := by
        obtain ⟨is, _⟩ := Option.filter_eq_some_iff.mp named
        cases v with
        | str s => exact congrArg Value.str (Option.some.inj is)
        | _ => cases is
      split at made
      · cases made
      · cases made
      · next segments segments' reads reads' =>
        split at made
        · cases made
        · next plain =>
          obtain rfl := Except.ok.inj made
          exact ⟨p, q, text named, text named', ⟨segments, reads⟩,
            (Path.plainKeys_eq_ok reads').mpr (by simpa using plain), rfl⟩
  · rintro ⟨p, q, rfl, rfl, ⟨segments, reads⟩, ⟨ks, keys⟩, rfl⟩
    have reads' := Path.parse_of_plainKeys keys
    have named {t : String} (visible : Text.isAllBlank t = false) :
        nonBlank (.str t) = some t := by simp [nonBlank, Value.str?, visible]
    simp [create, named (Path.ne_blank_of_parse reads), named (Path.ne_blank_of_parse reads'),
      reads, reads']

namespace Derivation

/-- The names under which the field is written. -/
def place (d : Derivation) : List String := Path.place d.target

/-- The steps on which the values are found. -/
def reading (d : Derivation) : List Segment := (Path.parse d.source).toOption.getD []

/-- The data with the field written. -/
def fill (d : Derivation) (data : Entries) : Entries :=
  Path.write data d.place (.list (d.kept (Path.collectAt (.map data) d.reading)))

end Derivation

namespace Declaration

variable {d : Declaration} {rule : Derivation}

theorem apply_eq_ok {data out : Entries} {target : String} :
    d.apply data = .ok (out, target) ↔
      ∃ rule, d.check = .ok rule ∧ rule.apply data = .ok out ∧ rule.target = target := by
  unfold apply
  rw [bind_eq_ok]
  refine exists_congr fun rule => and_congr_right fun _ => ?_
  cases rule.apply data with
  | error e => exact ⟨nofun, fun h => nomatch h.1⟩
  | ok out' => simp [pure, Except.pure]

/-- Both paths of an accepted declaration can be read. -/
theorem check_reads (made : d.check = .ok rule) :
    Path.parse rule.source = .ok rule.reading ∧ Path.plainKeys rule.target = .ok rule.place := by
  obtain ⟨p, q, _, _, ⟨segments, reads⟩, ⟨ks, keys⟩, same⟩ := Derivation.create_eq_ok.mp made
  have reads' : Path.parse rule.source = .ok segments := same ▸ Path.parse_strip.mpr reads
  have keys' : Path.plainKeys rule.target = .ok ks := same ▸ Path.plainKeys_strip.mpr keys
  rw [Derivation.reading, Derivation.place, Path.place_eq keys', reads', keys']
  exact ⟨rfl, rfl⟩

/-- So an accepted declaration can be carried out on any data. -/
theorem apply_checked (made : d.check = .ok rule) (data : Entries) :
    d.apply data = .ok (rule.fill data, rule.target) := by
  obtain ⟨reads, keys⟩ := check_reads made
  refine apply_eq_ok.mpr ⟨rule, made, ?_, rfl⟩
  rw [Derivation.apply, Derivation.values, Path.collect, reads]
  exact Path.set_eq keys data _

theorem apply_refused {e : DerivationError} (refused : d.check = .error e) (data : Entries) :
    d.apply data = .error e := by
  rw [apply, refused]
  rfl

/-- What is accepted is made of texts, and so has a text itself. -/
theorem isWritable_of_check (made : d.check = .ok rule) : d.isWritable := by
  obtain ⟨p, q, source, target, _⟩ := Derivation.create_eq_ok.mp made
  rw [isWritable, source, target]
  rfl

/-- The rules among some declarations: those that are accepted, in their order. -/
def rules (declared : List Declaration) : List Derivation :=
  declared.filterMap fun d => d.check.toOption

theorem mem_rules {declared : List Declaration} :
    rule ∈ rules declared ↔ ∃ d ∈ declared, d.check = .ok rule := by
  unfold rules
  rw [List.mem_filterMap]
  refine exists_congr fun d => and_congr_right fun _ => ?_
  cases d.check <;> simp [Except.toOption]

theorem rules_cons_checked (made : d.check = .ok rule) (declared : List Declaration) :
    rules (d :: declared) = rule :: rules declared := by
  rw [rules, List.filterMap_cons, made]
  rfl

theorem rules_cons_refused {e : DerivationError} (refused : d.check = .error e)
    (declared : List Declaration) : rules (d :: declared) = rules declared := by
  rw [rules, List.filterMap_cons, refused]
  rfl

/-- Where a declaration is entered in the report: with the field that it fills, or with its text
and the reason for which it is refused. -/
def entry (d : Declaration) : String ⊕ (String × String) :=
  match d.check with
  | .ok rule => .inl rule.target
  | .error e => .inr (d.text, e.message)

theorem label_writable (writable : d.isWritable) : d.label = .ok d.text := if_pos writable

theorem label_unwritable (unwritable : ¬d.isWritable) :
    d.label = .error (.badValue Numeral.unwritable) := if_neg unwritable

end Declaration

namespace Aggregation

variable {d : Declaration} {data : Entries} {report : AggregationReport}
  {rest : List Declaration} {a : Aggregation}

/-- With a label, a declaration is carried out or skipped before the others are. -/
theorem derive_cons {label : String} (named : d.label = .ok label) :
    (derive data report (d :: rest)).result = match d.apply data with
      | .ok (out, target) =>
        (derive out { report with derived := report.derived ++ [target] } rest).result
      | .error e =>
        (derive data { report with failed := report.failed ++ [(label, e.message)] } rest).result := by
  rw [derive, named]
  cases d.apply data with
  | ok made => rfl
  | error e => rfl

/-- Without one, nothing comes of any of them. -/
theorem derive_unnamed {m : Mishap} (unnamed : d.label = .error m) :
    (derive data report (d :: rest)).result = .error (.mishap m) := by
  rw [derive, unnamed]
  rfl

theorem derive_cons_eq_ok (done : (derive data report (d :: rest)).result = .ok a) :
    ∃ label, d.label = .ok label ∧
      ((∃ out target, d.apply data = .ok (out, target) ∧
        (derive out { report with derived := report.derived ++ [target] } rest).result = .ok a) ∨
      ∃ e, d.apply data = .error e ∧
        (derive data { report with failed := report.failed ++ [(label, e.message)] } rest).result =
          .ok a) := by
  cases named : d.label with
  | error m => cases (derive_unnamed named).symm.trans done
  | ok label =>
    rw [derive_cons named] at done
    refine ⟨label, rfl, ?_⟩
    cases applied : d.apply data with
    | ok made =>
      rw [applied] at done
      exact .inl ⟨_, _, rfl, done⟩
    | error e =>
      rw [applied] at done
      exact .inr ⟨e, rfl, done⟩

/-- The data once the accepted ones among the declarations are carried out on it, one after the
other. -/
def carriedOut (data : Entries) (declared : List Declaration) : Entries :=
  (Declaration.rules declared).foldl (fun es rule => rule.fill es) data

/-- Declarations that have texts are all gone through, and each is entered in the report. -/
theorem derive_writable {declared : List Declaration} (writable : ∀ d ∈ declared, d.isWritable)
    (data : Entries) (report : AggregationReport) :
    (derive data report declared).result = .ok
      { data := carriedOut data declared
        report :=
          { elements := report.elements
            derived :=
              report.derived ++ (declared.map Declaration.entry).filterMap Sum.getLeft?
            failed :=
              report.failed ++ (declared.map Declaration.entry).filterMap Sum.getRight? } } := by
  induction declared generalizing data report with
  | nil => simp [derive, carriedOut, Declaration.rules, Attempt.pure]
  | cons d declared ih =>
    obtain ⟨first, others⟩ := List.forall_mem_cons.mp writable
    rw [derive_cons (Declaration.label_writable first), List.map_cons]
    cases made : d.check with
    | ok rule =>
      have here : d.entry = .inl rule.target := by rw [Declaration.entry, made]
      simp only [Declaration.apply_checked made, ih others, here, carriedOut,
        Declaration.rules_cons_checked made, List.foldl_cons, List.filterMap_cons,
        Sum.getLeft?_inl, Sum.getRight?_inl, List.append_assoc, List.singleton_append]
    | error e =>
      have here : d.entry = .inr (d.text, e.message) := by rw [Declaration.entry, made]
      simp only [Declaration.apply_refused made, ih others, here, carriedOut,
        Declaration.rules_cons_refused made, List.filterMap_cons, Sum.getLeft?_inr,
        Sum.getRight?_inr, List.append_assoc, List.singleton_append]

/-- If one of them has no text, nothing comes of any. -/
theorem derive_unwritable {declared : List Declaration}
    (unwritable : ∃ d ∈ declared, ¬d.isWritable) (data : Entries) (report : AggregationReport) :
    (derive data report declared).result = .error (.mishap (.badValue Numeral.unwritable)) := by
  induction declared generalizing data report with
  | nil => simp at unwritable
  | cons d declared ih =>
    by_cases writable : d.isWritable
    · have later : ∃ d ∈ declared, ¬d.isWritable := by simpa [writable] using unwritable
      rw [derive_cons (Declaration.label_writable writable)]
      split <;> exact ih later _ _
    · exact derive_unnamed (Declaration.label_unwritable writable)

/-- What is kept when any of the declarations is carried out is kept when all of them are. -/
theorem derive_kept (Kept : Entries → Prop) {declared : List Declaration}
    (keeps : ∀ d ∈ declared, ∀ data out target, Kept data → d.apply data = .ok (out, target) →
      Kept out)
    (start : Kept data) (done : (derive data report declared).result = .ok a) : Kept a.data := by
  induction declared generalizing data report with
  | nil =>
    obtain rfl := Except.ok.inj done
    exact start
  | cons d declared ih =>
    have others := fun d' inside => keeps d' (List.mem_cons_of_mem d inside)
    obtain ⟨_, _, ⟨out, target, applied, done⟩ | ⟨_, _, done⟩⟩ := derive_cons_eq_ok done
    · exact ih others (keeps d List.mem_cons_self data out target start applied) done
    · exact ih others start done

theorem derive_elements {declared : List Declaration}
    (done : (derive data report declared).result = .ok a) :
    a.report.elements = report.elements := by
  induction declared generalizing data report with
  | nil =>
    obtain rfl := Except.ok.inj done
    rfl
  | cons d declared ih =>
    obtain ⟨_, _, ⟨_, _, _, done⟩ | ⟨_, _, done⟩⟩ := derive_cons_eq_ok done <;> exact (ih done :)

theorem Plan.aggregate_eq_ok {p : Plan} {items : List Value} {a : Aggregation} :
    p.aggregate items = .ok a ↔ ∃ data, gather p.target? items = .ok data ∧
      (derive data { elements := items.length } p.declarations).result = .ok a := by
  unfold aggregate attempt
  cases gather p.target? items with
  | error e => exact ⟨nofun, fun ⟨_, h, _⟩ => nomatch h⟩
  | ok data =>
    have summed : ((derive data { elements := items.length } p.declarations).bind fun a =>
        (Attempt.note .debug (summary a.report)).bind fun _ => Attempt.pure a).result =
          (derive data { elements := items.length } p.declarations).result := by
      rw [Attempt.result_bind]
      cases (derive data { elements := items.length } p.declarations).result <;> rfl
    exact ⟨fun made => ⟨data, rfl, summed.symm.trans made⟩, fun ⟨_, h, derived⟩ => by
      obtain rfl := Except.ok.inj h
      exact summed.trans derived⟩

/-- A collection can be placed where one place is named. -/
theorem gather_eq {target : String} {ks : List String} (reads : Path.plainKeys target = .ok ks)
    (items : List Value) :
    gather (some target) items =
      .ok (Path.write [] ks (.list (items.filter fun v => v.kind = .map))) :=
  Path.set_eq reads [] _

/-- With texts for all declarations an aggregate comes of whatever was gathered. -/
theorem Plan.aggregate_writable {p : Plan} (writable : ∀ d ∈ p.declarations, d.isWritable)
    {items : List Value} {data : Entries} (gathered : gather p.target? items = .ok data) :
    p.aggregate items = .ok
      { data := carriedOut data p.declarations
        report :=
          { elements := items.length
            derived := (p.declarations.map Declaration.entry).filterMap Sum.getLeft?
            failed := (p.declarations.map Declaration.entry).filterMap Sum.getRight? } } :=
  aggregate_eq_ok.mpr ⟨data, gathered, derive_writable writable data _⟩

theorem aggregate_eq_ok {s : Schema} {items : List Value} {a : Aggregation} :
    aggregate s items = .ok a ↔ ∃ data, gather s.usableTarget? items = .ok data ∧
      (derive data { elements := items.length }
        (s.derivations.map DerivationSpec.declaration)).result = .ok a :=
  Plan.aggregate_eq_ok

end Aggregation
end Quire
