import Quire.Proofs.Legible
import Quire.Proofs.Schema.Sites
import Quire.Proofs.Serialization

/-! What can be asked of a schema once it is made. Whether an answer comes depends on the
definition alone: it has to be a mapping, the paths of its properties have to be legible, and
what it requires has to be able to serve as keys. Of such a schema every question is answered,
and its rules can be applied to any metadata. -/

namespace Quire.Schema

/-- Every property of an object schema has a legible path. -/
def Readable (node : Value) : Prop := ∀ p ∈ properties [] node, Path.Legible (dotted p.1)

instance (node : Value) : Decidable (Readable node) :=
  inferInstanceAs (Decidable (∀ p ∈ properties [] node, Path.Legible (dotted p.1)))

/-- All that a mapping requires can serve as keys. -/
def RequiresKeys (es : Entries) : Prop := ∀ name ∈ requiredOf es, name.isFixed = true

instance (es : Entries) : Decidable (RequiresKeys es) :=
  inferInstanceAs (Decidable (∀ name ∈ requiredOf es, name.isFixed = true))

/-- An object schema that rules can be made of: what it requires can serve as keys, and so can
what its properties require. -/
def Compilable (node : Value) : Prop :=
  (∃ es ∈ node.map?, RequiresKeys es) ∧ ∀ p ∈ properties [] node, RequiresKeys p.2

instance (node : Value) : Decidable (Compilable node) :=
  inferInstanceAs (Decidable
    ((∃ es ∈ node.map?, RequiresKeys es) ∧ ∀ p ∈ properties [] node, RequiresKeys p.2))

mutual

/-- Each rule has the path of a property. -/
theorem rulesOf_declared : ∀ (node : Value) {path : List String} {rs : List FieldRule},
    rulesOf path node = .ok rs → ∀ r ∈ rs, ∃ p ∈ properties path node, r.path = dotted p.1
  | .map es, _, _, compiled => rulesFrom_declared es compiled
  | .list _, _, _, compiled | .tuple _, _, _, compiled | .set _, _, _, compiled
  | .cycle _, _, _, compiled | .missing _, _, _, compiled | .null, _, _, compiled
  | .bool _, _, _, compiled | .int _, _, _, compiled | .real _, _, _, compiled
  | .str _, _, _, compiled | .date _, _, _, compiled | .moment _, _, _, compiled
  | .time _, _, _, compiled | .bytes _, _, _, compiled => nomatch compiled

theorem rulesFrom_declared : ∀ (es : List (Value × Value)) {path : List String}
    {required : Except Mishap (List Value)} {rs : List FieldRule},
    rulesFrom path required es = .ok rs →
      ∀ r ∈ rs, ∃ p ∈ propertiesFrom path es, r.path = dotted p.1
  | [], _, _, _, compiled => by
    obtain rfl := Except.ok.inj compiled
    nofun
  | (k, v) :: es, _, _, _, compiled => by
    rw [rulesFrom] at compiled
    rw [propertiesFrom]
    cases here : isField k "properties" with
    | true =>
      rw [here] at compiled
      exact rulesUnder_declared v compiled
    | false =>
      rw [here] at compiled
      exact rulesFrom_declared es compiled

theorem rulesUnder_declared : ∀ (v : Value) {path : List String}
    {required : Except Mishap (List Value)} {rs : List FieldRule},
    rulesUnder path required v = .ok rs →
      ∀ r ∈ rs, ∃ p ∈ declared path v, r.path = dotted p.1
  | .map props, _, _, _, compiled => by
    obtain ⟨names, _, compiled⟩ := bind_eq_ok.mp compiled
    exact rulesFor_declared props compiled
  | .list _, _, _, _, compiled | .tuple _, _, _, _, compiled | .set _, _, _, _, compiled
  | .cycle _, _, _, _, compiled | .missing _, _, _, _, compiled | .null, _, _, _, compiled
  | .bool _, _, _, _, compiled | .int _, _, _, _, compiled | .real _, _, _, _, compiled
  | .str _, _, _, _, compiled | .date _, _, _, _, compiled | .moment _, _, _, _, compiled
  | .time _, _, _, _, compiled | .bytes _, _, _, _, compiled => by
    obtain rfl := Except.ok.inj compiled
    nofun

theorem rulesFor_declared : ∀ (props : List (Value × Value)) {path : List String}
    {required : List Value} {rs : List FieldRule}, rulesFor path required props = .ok rs →
      ∀ r ∈ rs, ∃ p ∈ declaredFrom path props, r.path = dotted p.1
  | [], _, _, _, compiled => by
    obtain rfl := Except.ok.inj compiled
    nofun
  | (k, v) :: props, path, required, rs, compiled => by
    have beside {others : List FieldRule} (compiled : rulesFor path required props = .ok others) :
        ∀ r ∈ others, ∃ p ∈ declaredFrom path ((k, v) :: props), r.path = dotted p.1 := by
      intro r inside
      obtain ⟨p, declared, same⟩ := rulesFor_declared props compiled r inside
      exact ⟨p, List.mem_append_right _ declared, same⟩
    cases v with
    | map prop =>
      rw [rulesFor] at compiled
      cases result : isResult prop with
      | true =>
        -- A result is a property without a rule, and so is all that is below it.
        rw [result] at compiled
        exact beside compiled
      | false =>
        rw [result] at compiled
        obtain ⟨inner, compiled', compiled⟩ := bind_eq_ok.mp compiled
        obtain ⟨others, compiled'', whole⟩ := bind_eq_ok.mp compiled
        obtain rfl := Except.ok.inj whole
        intro r inside
        rcases List.mem_cons.mp inside with rfl | inside
        · exact ⟨(path ++ [k.plain], prop), List.mem_append_left _ List.mem_cons_self, rfl⟩
        · rcases List.mem_append.mp inside with further | later
          · obtain ⟨p, declared, same⟩ := rulesOf_declared (.map prop) compiled' r further
            exact ⟨p, List.mem_append_left _ (List.mem_append_right _ declared), same⟩
          · exact beside compiled'' r later
    | _ => exact beside compiled

end

mutual

/-- An object schema has rules if what it requires can serve as keys, and what its properties
require. -/
theorem rulesOf_keyed : ∀ (node : Value) {es : Entries}, node.map? = some es → RequiresKeys es →
    ∀ (path : List String), (∀ p ∈ properties path node, RequiresKeys p.2) →
      ∃ rs, rulesOf path node = .ok rs
  | .map es, _, rfl, keys, path, below => by
    rw [rulesOf, requiredNames_keyed keys]
    exact rulesFrom_keyed es _ path below

theorem rulesFrom_keyed : ∀ (es : List (Value × Value)) (required : List Value)
    (path : List String), (∀ p ∈ propertiesFrom path es, RequiresKeys p.2) →
      ∃ rs, rulesFrom path (.ok required) es = .ok rs
  | [], _, _, _ => ⟨[], rfl⟩
  | (k, v) :: es, required, path, below => by
    rw [propertiesFrom] at below
    rw [rulesFrom]
    cases here : isField k "properties" with
    | true =>
      rw [here] at below
      exact rulesUnder_keyed v required path below
    | false =>
      rw [here] at below
      exact rulesFrom_keyed es required path below

theorem rulesUnder_keyed : ∀ (v : Value) (required : List Value) (path : List String),
    (∀ p ∈ declared path v, RequiresKeys p.2) → ∃ rs, rulesUnder path (.ok required) v = .ok rs
  | .map props, required, path, below => rulesFor_keyed props required path below
  | .list _, _, _, _ | .tuple _, _, _, _ | .set _, _, _, _ | .cycle _, _, _, _
  | .missing _, _, _, _ | .null, _, _, _ | .bool _, _, _, _ | .int _, _, _, _
  | .real _, _, _, _ | .str _, _, _, _ | .date _, _, _, _ | .moment _, _, _, _
  | .time _, _, _, _ | .bytes _, _, _, _ => ⟨[], rfl⟩

theorem rulesFor_keyed : ∀ (props : List (Value × Value)) (required : List Value)
    (path : List String), (∀ p ∈ declaredFrom path props, RequiresKeys p.2) →
      ∃ rs, rulesFor path required props = .ok rs
  | [], _, _, _ => ⟨[], rfl⟩
  | (k, v) :: props, required, path, below => by
    obtain ⟨others, beside⟩ := rulesFor_keyed props required path fun p later =>
      below p (List.mem_append_right _ later)
    cases v with
    | map prop =>
      rw [rulesFor]
      cases isResult prop with
      | true => exact ⟨others, beside⟩
      | false =>
        have own : RequiresKeys prop := below (path ++ [k.plain], prop)
          (List.mem_append_left _ List.mem_cons_self)
        obtain ⟨inner, further⟩ := rulesOf_keyed (.map prop) rfl own
          (path ++ [k.plain]) fun p inside =>
            below p (List.mem_append_left _ (List.mem_append_right _ inside))
        rw [further, beside]
        exact ⟨_, rfl⟩
    | _ => exact ⟨others, beside⟩

end

variable {s : Schema}

theorem usableTarget?_readable (readable : Readable s.definition) {target : String}
    (usable : s.usableTarget? = some target) : Path.Legible target := by
  obtain ⟨there, _⟩ := Option.filter_eq_some_iff.mp usable
  obtain ⟨path, found, rfl⟩ := Option.map_eq_some_iff.mp there
  obtain ⟨p, first, rfl⟩ := Option.map_eq_some_iff.mp found
  exact readable p (List.mem_of_find?_eq_some first)

theorem itemSchema_readable (readable : Readable s.definition) :
    ∃ items, s.itemSchema = .ok items := by
  unfold itemSchema
  cases usable : s.usableTarget? with
  | none => exact ⟨none, rfl⟩
  | some target =>
    obtain ⟨ks, reads⟩ := (usableTarget?_readable readable usable).plainKeys
    simp only [propertySchema, Path.parse_of_plainKeys reads]
    exact ⟨_, rfl⟩

theorem emptyStructure_readable (readable : Readable s.definition) :
    ∃ es, s.emptyStructure = .ok es := by
  unfold emptyStructure
  cases usable : s.usableTarget? with
  | none => exact ⟨[], rfl⟩
  | some target =>
    obtain ⟨ks, reads⟩ := (usableTarget?_readable readable usable).plainKeys
    simp only [Path.set, reads]
    exact ⟨_, rfl⟩

/-- A template has to be written out, and its numbers may be too long for that. -/
theorem templatePath_writable (object : s.definition.map?.isSome)
    (writable : s.definition.isWritable = true) : ∃ path, s.templatePath = .ok path := by
  unfold templatePath entries
  cases same : s.definition with
  | map es =>
    rw [same] at writable
    cases declared : (Entries.field? es Directive.template).filter Value.truthy with
    | none => exact ⟨none, by simp only [bind, Except.bind, declared]; rfl⟩
    | some v =>
      have there := (Option.filter_eq_some_iff.mp declared).1
      have short := Value.isWritable_hereditary.field? writable there
      exact ⟨some v.plain, by simp only [bind, Except.bind, declared, short]; rfl⟩
  | _ =>
    rw [same] at object
    cases object

/-- The rules are made of the schema that documents have to meet. -/
theorem exists_rules_eq {items : Option Entries} (asked : s.itemSchema = .ok items) :
    ∃ scope, s.rules = (do return ⟨← rulesOf [] s.documentSchema, scope⟩ : Outcome RuleSet) := by
  cases usable : s.usableTarget? with
  | none =>
    have nothing : s.itemSchema = .ok none := by rw [itemSchema, usable]
    refine ⟨"root", ?_⟩
    rw [rules, documentSchema, usable, nothing]
  | some target =>
    have found : ∃ there, items = some there := by
      rw [itemSchema, usable] at asked
      obtain ⟨prop, _, asked⟩ := bind_eq_ok.mp asked
      exact ⟨_, (Except.ok.inj asked).symm⟩
    obtain ⟨there, rfl⟩ := found
    refine ⟨target ++ "[]", ?_⟩
    rw [rules, documentSchema, usable, asked]
    rfl

theorem rulesOf_of_rules {set : RuleSet} (made : s.rules = .ok set) :
    rulesOf [] s.documentSchema = .ok set.rules := by
  cases asked : s.itemSchema with
  | error e =>
    cases usable : s.usableTarget? with
    | none =>
      rw [itemSchema, usable] at asked
      cases asked
    | some target =>
      rw [rules, usable, asked] at made
      cases made
  | ok items =>
    obtain ⟨scope, same⟩ := exists_rules_eq asked
    rw [same] at made
    cases compiled : rulesOf [] s.documentSchema with
    | error m =>
      rw [compiled] at made
      cases made
    | ok rs =>
      rw [compiled] at made
      obtain rfl := Except.ok.inj made
      rfl

theorem rules_compilable (readable : Readable s.definition)
    (compilable : Compilable s.documentSchema) : ∃ set, s.rules = .ok set := by
  obtain ⟨items, asked⟩ := itemSchema_readable readable
  obtain ⟨scope, same⟩ := exists_rules_eq asked
  obtain ⟨⟨es, object, keys⟩, below⟩ := compilable
  obtain ⟨rs, compiled⟩ := rulesOf_keyed s.documentSchema object keys [] below
  rw [same, compiled]
  exact ⟨_, rfl⟩

/-- Rules made of legible properties pass metadata or find something wrong with it. -/
theorem validate_readable (readable : Readable s.documentSchema) {set : RuleSet}
    (made : s.rules = .ok set) (metadata : Entries) (path : Option String) :
    set.validate (.map metadata) path = .ok () ∨ ∃ found,
      set.validate (.map metadata) path = .error (.fault (RuleSet.faultOf found path)) := by
  refine RuleSet.validate_legible (fun r inside => ?_) metadata path
  obtain ⟨p, declared, same⟩ :=
    rulesOf_declared s.documentSchema (rulesOf_of_rules made) r inside
  rw [same]
  exact readable p declared

/-- What is to be flattened is refused as a matter of configuration. -/
theorem flattenPaths_error {f : Failure} (refused : s.flattenPaths = .error f) :
    ∃ message, f = .fault (.configuration message none) := by
  unfold flattenPaths at refused
  split at refused
  · cases refused
  · exact ⟨_, (Except.error.inj refused).symm⟩

/-- A mapping without a reference of its own stays a mapping. -/
theorem unfold_object {follow : String → Except ReferenceError Value} {es : Entries}
    (plain : referenceOf? es = none) {v : Value} (unfolded : unfold follow (.map es) = .ok v) :
    v.map?.isSome := by
  rw [unfold, plain] at unfolded
  obtain ⟨fields, _, whole⟩ := bind_eq_ok.mp unfolded
  obtain rfl := Except.ok.inj whole
  rfl

theorem resolveWithin_object {t : FileTree} {budget : Nat} {c : Context} {chain : List String}
    {es : Entries} (plain : referenceOf? es = none) {v : Value}
    (resolved : resolveWithin t budget c chain (.map es) = .ok v) : v.map?.isSome := by
  cases budget with
  | zero => exact unfold_object plain resolved
  | succ budget => exact unfold_object plain resolved

theorem ofEntries_object {t : FileTree} {es : Entries} {source : Option FileName}
    (made : ofEntries t es source = .ok s) (plain : referenceOf? es = none) :
    s.definition.map?.isSome := by
  obtain ⟨v, resolved, whole⟩ := bind_eq_ok.mp made
  obtain rfl := Except.ok.inj whole
  unfold lift at resolved
  split at resolved
  · next all =>
    obtain rfl := Except.ok.inj resolved
    obtain ⟨_, shallow, all⟩ := bind_eq_ok.mp all
    obtain rfl := bounded_eq_ok shallow
    exact resolveWithin_object plain all
  · cases resolved

/-- A schema answers. Its definition is a mapping, and its template is told, unless the top of
the definition refers to something else; what it says about flattening is taken or refused; if its
properties have legible paths then the elements of the collection and the empty aggregate are
told, and the rules as well if they can be made; and rules for legible properties pass the metadata
of a document or find something wrong with it. Whole numbers too long to be written out are left
aside. What is asked further has an answer always. -/
theorem ofEntries_answers {t : FileTree} {es : Entries} {source : Option FileName}
    (made : ofEntries t es source = .ok s) (writable : s.definition.isWritable = true) :
    (referenceOf? es = none → s.definition.map?.isSome) ∧
    (s.definition.map?.isSome → ∃ path, s.templatePath = .ok path) ∧
    (∀ f, s.flattenPaths = .error f → ∃ message, f = .fault (.configuration message none)) ∧
    (Readable s.definition →
      (∃ items, s.itemSchema = .ok items) ∧ (∃ empty, s.emptyStructure = .ok empty) ∧
      (Compilable s.documentSchema → ∃ set, s.rules = .ok set)) ∧
    (Readable s.documentSchema → ∀ set, s.rules = .ok set →
      ∀ (metadata : Entries) path, (Value.map metadata).isWritable = true →
        set.validate (.map metadata) path = .ok () ∨ ∃ found,
          set.validate (.map metadata) path = .error (.fault (RuleSet.faultOf found path))) := by
  refine ⟨ofEntries_object made, fun object => templatePath_writable object writable,
    fun f refused => flattenPaths_error refused, fun readable => ?_,
    fun readable set compiled metadata path _ => validate_readable readable compiled metadata path⟩
  exact ⟨itemSchema_readable readable, emptyStructure_readable readable,
    rules_compilable readable⟩

/-- A talk has a title, and whoever is said to give it has a name. -/
def talk : Value :=
  .record
    [("required", .list [.str "title"]),
     ("properties", .record
      [("title", .record [("type", .str "string")]),
       ("speaker", .record
        [("required", .list [.str "name"]),
         ("properties", .record [("name", .record [("type", .str "string")])])])])]

/-- Talks are gathered in a collection, and their tags beside it. -/
def proceedings (items : Value) : Value :=
  .record
    [("x-template", .str "page.html"),
     ("properties", .record
      [("talks", .record [("x-frontmatter-part", .bool true), ("items", items)]),
       ("tags", .record [("x-derived-from", .str "talks[].tag")])]),
     ("$defs", .record [("talk", talk)])]

theorem ofEntries_answers_proceedings :
    ∃ es s, proceedings (.record [("$ref", .str "#/$defs/talk")]) = .map es ∧
      ofEntries noFiles es none = .ok s ∧ s.definition.isWritable = true ∧
      referenceOf? es = none ∧ s.definition.map?.isSome ∧ Readable s.definition ∧
      Compilable s.documentSchema ∧ Readable s.documentSchema ∧
      (∃ path, s.templatePath = .ok path) ∧ (∃ items, s.itemSchema = .ok items) ∧
      (∃ empty, s.emptyStructure = .ok empty) ∧ ∃ set, s.rules = .ok set ∧
        ∀ path, set.validate (.map [(.str "speaker", .record [])]) path = .ok () ∨ ∃ found,
          set.validate (.map [(.str "speaker", .record [])]) path =
            .error (.fault (RuleSet.faultOf found path)) := by
  have made : ofEntries noFiles
      ((proceedings (.record [("$ref", .str "#/$defs/talk")])).map?.getD []) none =
        .ok ⟨proceedings talk, none⟩ := by with_unfolding_all rfl
  have plain : referenceOf?
      ((proceedings (.record [("$ref", .str "#/$defs/talk")])).map?.getD []) = none := by
    decide +kernel
  have writable : (proceedings talk).isWritable = true := by decide +kernel
  have readable : Readable (proceedings talk) := by decide +kernel
  have document : documentSchema ⟨proceedings talk, none⟩ = talk := by with_unfolding_all rfl
  have compilable : Compilable (documentSchema ⟨proceedings talk, none⟩) := by
    rw [document]
    decide +kernel
  have readable' : Readable (documentSchema ⟨proceedings talk, none⟩) := by
    rw [document]
    decide +kernel
  obtain ⟨object, template, _, questions, passes⟩ := ofEntries_answers made writable
  obtain ⟨items, empty, rules⟩ := questions readable
  obtain ⟨set, compiled⟩ := rules compilable
  refine ⟨_, _, rfl, made, writable, plain, object plain, readable, compilable, readable',
    template rfl, items, empty, set, compiled, fun path => ?_⟩
  exact passes readable' set compiled _ path (by decide +kernel)

/-- A definition may turn out to be no mapping, a property may have a name that is no part of a
path, what is required may be no key, and the name of a collection may be one that cannot be
written to: none of this is seen when the schema is made, nor is it a matter of configuration
later. -/
theorem ofEntries_unanswered :
    (∃ s m, ofEntries noFiles [(.str "$ref", .str "#/x"), (.str "x", .int 5)] none = .ok s ∧
      s.definition = .int 5 ∧ s.templatePath = .error m ∧ s.rules = .error (.mishap m) ∧
      m.kind = .noField) ∧
    (∃ s set m, ofEntries noFiles [(.str "properties", .record [("a[", .record [])])] none = .ok s ∧
      s.rules = .ok set ∧ set.validate (.map []) none = .error (.mishap m) ∧
      m.kind = .badValue) ∧
    (∃ s m, ofEntries noFiles [(.str "required", .list [.list [.str "a"]]),
        (.str "properties", .record [])] none = .ok s ∧
      s.rules = .error (.mishap m) ∧ m.kind = .badKind) ∧
    (∃ s e, ofEntries noFiles [(.str "properties",
        .record [("a[]", .record [("x-frontmatter-part", .bool true)])])] none = .ok s ∧
      s.emptyStructure = .error e) := by
  refine ⟨⟨⟨.int 5, none⟩, noEntries (.int 5), ?_, rfl, ?_, ?_, rfl⟩,
    ⟨⟨.record [("properties", .record [("a[", .record [])])], none⟩,
      ⟨[⟨"a[", [], false, none, none, none⟩], "root"⟩,
      (PathError.malformed "a[" "a[").toMishap, ?_, ?_, ?_, rfl⟩,
    ⟨⟨.record [("required", .list [.list [.str "a"]]), ("properties", .record [])], none⟩,
      ⟨.badKind, "unhashable type: 'list'"⟩, ?_, ?_, rfl⟩,
    ⟨⟨.record [("properties", .record [("a[]", .record [("x-frontmatter-part", .bool true)])])],
      none⟩, .writesOne "a[]", ?_, ?_⟩⟩
  all_goals with_unfolding_all rfl

end Quire.Schema
