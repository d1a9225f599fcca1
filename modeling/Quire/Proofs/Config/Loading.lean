import Quire.Proofs.Config.Reading

/-! Settings from a file that is there, whatever bytes it holds. Loading has its settings or
refuses them, but for some mishaps that no fault is made of: each of them is named here, with
what in the file brings it about. -/

namespace Quire.Config

variable {t : FileTree} {n : FileName} {es : Entries} {c : Config}

/-- The mapping that a file of settings holds, in either notation. -/
inductive Holds (t : FileTree) (n : FileName) (es : Entries) : Prop
  | toml (ending : Text.lower n.suffix = ".toml") {bytes : List UInt8} (read : t.read n = .ok bytes)
      {s : String} (decoded : Encoding.decode .utf8 bytes = .ok s) (parsed : Toml.read s = .ok es)
  | json (ending : Text.lower n.suffix = ".json") {s : String} (read : t.readText n = .ok s)
      (parsed : Json.read s = .ok (.map es))

theorem Holds.named (holds : Holds t n es) : es.Named := by
  cases holds with
  | toml _ _ _ parsed => exact Toml.read_named parsed
  | json _ _ parsed => exact Json.read_named parsed

/-- The mishaps that loading makes no fault of: bytes of TOML that are no text, text that is not
read for another reason than its form, numbers too large for their kind, and null for the two
groups that paths are put in order in. -/
inductive Escapes (t : FileTree) (n : FileName) : Mishap → Prop
  | undecodable (ending : Text.lower n.suffix = ".toml") {bytes : List UInt8}
      (read : t.read n = .ok bytes) {e : Encoding.Trouble}
      (wrong : Encoding.decode .utf8 bytes = .error e) : Escapes t n ⟨.undecodable, e.message⟩
  | toml (ending : Text.lower n.suffix = ".toml") {bytes : List UInt8} (read : t.read n = .ok bytes)
      {s : String} (decoded : Encoding.decode .utf8 bytes = .ok s) {e : Toml.Trouble}
      (wrong : Toml.read s = .error e) {m : Mishap} (other : e.mishap? = some m) : Escapes t n m
  | json (ending : Text.lower n.suffix = ".json") {s : String} (read : t.readText n = .ok s)
      {e : Json.ReadError} (wrong : Json.read s = .error e) {m : Mishap}
      (other : e.mishap? = some m) : Escapes t n m
  | overflow {es : Entries} (holds : Holds t n es) {m : Mishap}
      (beyond : Overflow (.map es) numbers m) : Escapes t n m
  | null {es : Entries} (holds : Holds t n es) {name : String}
      (among : name = "sources" ∨ name = "output")
      (null : Entries.field? es name = some .null) (field : String) :
      Escapes t n (noAttribute .null field)

theorem fileExists_read (there : fileExists t n = .ok true) :
    (FileTree.refuseName n.text).isOk = true ∧ ∃ bytes, t.read n = .ok bytes := by
  unfold fileExists at there
  split at there
  · next named =>
    split at there
    · next place found =>
      refine ⟨named, ?_⟩
      have file := Except.ok.inj there
      unfold FileTree.isFile at file
      split at file
      · next bytes held =>
        refine ⟨bytes, ?_⟩
        refine bind_eq_ok.mpr ⟨place, found, ?_⟩
        rw [held]
        rfl
      · cases file
    · cases there
    · cases there
  · cases there

theorem ofHeld_ends (holds : Holds t n es) :
    Ends (Escapes t n) (ofValue (.map es)) :=
  (ofValue_ends holds.named).mono fun _ => .overflow holds

theorem ofToml_ends (there : fileExists t n = .ok true) (ending : Text.lower n.suffix = ".toml") :
    Ends (Escapes t n) (ofToml t n) := by
  obtain ⟨_, bytes, read⟩ := fileExists_read there
  unfold ofToml
  rw [read]
  dsimp only
  split
  · next e wrong =>
    intro e' same
    exact .inr ⟨_, (Except.error.inj same).symm, .undecodable ending read wrong⟩
  · next s decoded =>
    split
    · next es parsed => exact ofHeld_ends (.toml ending read decoded parsed)
    · next e wrong =>
      intro e' same
      split at same
      · next m other =>
        exact .inr ⟨m, (Except.error.inj same).symm, .toml ending read decoded wrong other⟩
      · exact .inl ⟨_, (Except.error.inj same).symm, rfl⟩

theorem ofToml_eq_ok (ending : Text.lower n.suffix = ".toml") (came : ofToml t n = .ok c) :
    ∃ es, Holds t n es ∧ ofValue (.map es) = .ok c := by
  unfold ofToml at came
  split at came
  · cases came
  · next bytes read =>
    split at came
    · cases came
    · next s decoded =>
      split at came
      · next es parsed => exact ⟨es, .toml ending read decoded parsed, came⟩
      · cases came

theorem readText_error (there : fileExists t n = .ok true) {m : Mishap}
    (failed : t.readText n = .error m) : m.kind = .undecodable := by
  obtain ⟨named, bytes, read⟩ := fileExists_read there
  unfold FileTree.readText at failed
  rcases bind_eq_error.mp failed with here | ⟨_, _, failed⟩
  · rw [here] at named
    cases named
  · rw [read] at failed
    dsimp only at failed
    split at failed
    · cases failed
      rfl
    · cases failed

theorem ofJson_ends (there : fileExists t n = .ok true) (ending : Text.lower n.suffix = ".json") :
    Ends (Escapes t n) (ofJson t n) := by
  unfold ofJson
  split
  · next m failed =>
    rw [readText_error there failed]
    exact .refused rfl
  · next s read =>
    split
    · next e wrong =>
      intro e' same
      split at same
      · next m other =>
        exact .inr ⟨m, (Except.error.inj same).symm, .json ending read wrong other⟩
      · exact .inl ⟨_, (Except.error.inj same).symm, rfl⟩
    · next es parsed => exact ofHeld_ends (.json ending read parsed)
    · exact .refused rfl

theorem ofJson_eq_ok (ending : Text.lower n.suffix = ".json") (came : ofJson t n = .ok c) :
    ∃ es, Holds t n es ∧ ofValue (.map es) = .ok c := by
  unfold ofJson at came
  split at came
  · split at came <;> cases came
  · next s read =>
    split at came
    · cases came
    · next es parsed => exact ⟨es, .json ending read parsed, came⟩
    · cases came

theorem get_escapes {α : Type} {s : Section α} {name field : String} {m : Mishap}
    (holds : Holds t n es) (stands : s.StandsFor es name)
    (among : name = "sources" ∨ name = "output") (failed : s.get field = .error m) :
    Escapes t n m := by
  rcases stands with ⟨a, rfl⟩ | ⟨rfl, null⟩
  · cases failed
  · obtain rfl := Except.error.inj failed
    exact .null holds among null field

/-- Paths are put in order where there are the groups that hold them; nothing else changes. -/
theorem settle_eq_ok {c' : Config} {base : FileName} (came : c.settle base = .ok c') :
    (∃ s, c'.sources = .fields s) ∧ (∃ o, c'.output = .fields o) ∧
      c'.processing = c.processing ∧ c'.profile = c.profile ∧ c'.bounds = c.bounds ∧
      c'.logging = c.logging := by
  obtain ⟨sources, _, came⟩ := bind_eq_ok.mp came
  obtain ⟨output, _, came⟩ := bind_eq_ok.mp came
  obtain rfl := Except.ok.inj came
  exact ⟨⟨_, rfl⟩, ⟨_, rfl⟩, rfl, rfl, rfl, rfl⟩

theorem settle_ends (holds : Holds t n es) (grouped : c.Grouped es) (base : FileName) :
    Ends (Escapes t n) (liftM (c.settle base) : Outcome Config) := by
  intro e failed
  obtain ⟨m, wrong, rfl⟩ := lift_eq_error.mp failed
  refine .inr ⟨m, rfl, ?_⟩
  rcases bind_eq_error.mp wrong with here | ⟨sources, _, wrong⟩
  · exact get_escapes holds grouped.sources (.inl rfl) here
  · rcases bind_eq_error.mp wrong with here | ⟨output, _, done⟩
    · exact get_escapes holds grouped.output (.inr rfl) here
    · cases done

theorem load_toml (there : fileExists t n = .ok true) (ending : Text.lower n.suffix = ".toml") :
    load t n = ofToml t n >>= fun c => liftM (c.settle n.parent) := by
  unfold load
  rw [there, ending]
  rfl

theorem load_json (there : fileExists t n = .ok true) (ending : Text.lower n.suffix = ".json") :
    load t n = ofJson t n >>= fun c => liftM (c.settle n.parent) := by
  unfold load
  rw [there, ending]
  rfl

/-- What a file holds is read, then made settings of, then put in order. -/
theorem load_eq (there : fileExists t n = .ok true)
    (ending : Text.lower n.suffix = ".toml" ∨ Text.lower n.suffix = ".json") :
    ∃ given : Outcome Config, load t n = given >>= (fun c => liftM (c.settle n.parent)) ∧
      Ends (Escapes t n) given ∧
      ∀ c, given = .ok c → ∃ es, Holds t n es ∧ ofValue (.map es) = .ok c := by
  rcases ending with toml | json
  · exact ⟨_, load_toml there toml, ofToml_ends there toml, fun _ => ofToml_eq_ok toml⟩
  · exact ⟨_, load_json there json, ofJson_ends there json, fun _ => ofJson_eq_ok json⟩

/-- A file of settings, whatever it holds, gives settings, or is refused by a fault of
configuration, or goes wrong by one of the mishaps that escape. Of the settings given, sources and
output are groups, and the others are unless the file has null in their place. -/
theorem load_ends (there : fileExists t n = .ok true)
    (ending : Text.lower n.suffix = ".toml" ∨ Text.lower n.suffix = ".json") :
    (∃ c es, load t n = .ok c ∧ Holds t n es ∧ c.Grouped es ∧ (∃ s, c.sources = .fields s) ∧
      ∃ o, c.output = .fields o) ∨
    (∃ f, load t n = .error (.fault f) ∧ f.kind = .configuration) ∨
    ∃ m, load t n = .error (.mishap m) ∧ Escapes t n m := by
  obtain ⟨given, same, ends, held⟩ := load_eq there ending
  have whole : Ends (Escapes t n) (load t n) := by
    rw [same]
    refine Ends.bind ends fun c came => ?_
    obtain ⟨es, holds, made⟩ := held c came
    exact settle_ends holds (ofValue_grouped made) n.parent
  cases ended : load t n with
  | error e =>
    rcases whole e ended with ⟨f, rfl, kind⟩ | ⟨m, rfl, escapes⟩
    · exact .inr (.inl ⟨f, rfl, kind⟩)
    · exact .inr (.inr ⟨m, rfl, escapes⟩)
  | ok c' =>
    rw [same] at ended
    obtain ⟨c, came, settled⟩ := bind_eq_ok.mp ended
    obtain ⟨es, holds, made⟩ := held c came
    have grouped := ofValue_grouped made
    obtain ⟨⟨s, sources⟩, ⟨o, output⟩, processing, profile, bounds, logging⟩ :=
      settle_eq_ok (lift_eq_ok.mp settled)
    refine .inl ⟨c', es, rfl, holds, ⟨.inl ⟨s, sources⟩, ?_, ?_, ?_, .inl ⟨o, output⟩, ?_⟩,
      ⟨s, sources⟩, o, output⟩
    · rw [processing]
      exact grouped.processing
    · rw [profile]
      exact grouped.profile
    · rw [bounds]
      exact grouped.bounds
    · rw [logging]
      exact grouped.logging

/-! ### Files to load -/

def tomlFile : FileName := ⟨.relative, ["c.toml"]⟩

def jsonFile : FileName := ⟨.relative, ["c.json"]⟩

/-- A home folder with one file in it. -/
def alone (n : FileName) (bytes : List UInt8) : FileTree :=
  ⟨["home"], [(["home"], .folder), (["home", n.last], .file bytes)]⟩

/-- The bytes of a text that has no characters but those of ASCII. -/
def asciiBytes (s : String) : List UInt8 := s.toList.map fun c => c.toNat.toUInt8

/-- The kind of the mishap that loading ends with, if it does. -/
def mishapKind? (x : Outcome Config) : Option Mishap.Kind :=
  match x with
  | .error (.mishap m) => some m.kind
  | _ => none

theorem exists_mishap {x : Outcome Config} {kind : Mishap.Kind}
    (ended : mishapKind? x = some kind) : ∃ m, x = .error (.mishap m) ∧ m.kind = kind := by
  unfold mishapKind? at ended
  split at ended
  · next m => exact ⟨m, rfl, Option.some.inj ended⟩
  · cases ended

/-- Whether loading gives settings with null in the place of the bounds. -/
def givesNullBounds (x : Outcome Config) : Bool :=
  match x with
  | .ok { bounds := .other .null, .. } => true
  | _ => false

theorem exists_nullBounds {x : Outcome Config} (given : givesNullBounds x = true) :
    ∃ c, x = .ok c ∧ c.bounds = .other .null := by
  unfold givesNullBounds at given
  split at given
  · exact ⟨_, rfl, rfl⟩
  · cases given

theorem load_ends_plain :
    fileExists (alone tomlFile (asciiBytes "mode = 'full'")) tomlFile = .ok true ∧
    Text.lower tomlFile.suffix = ".toml" ∧
    ∃ c es, load (alone tomlFile (asciiBytes "mode = 'full'")) tomlFile = .ok c ∧
      c.Grouped es ∧ ∃ s, c.sources = .fields s := by
  have there : fileExists (alone tomlFile (asciiBytes "mode = 'full'")) tomlFile = .ok true := rfl
  have ending : Text.lower tomlFile.suffix = ".toml" := by decide +kernel
  have comes : (load (alone tomlFile (asciiBytes "mode = 'full'")) tomlFile).isOk = true := by
    decide +kernel
  refine ⟨there, ending, ?_⟩
  rcases load_ends there (.inl ending) with
    ⟨c, es, loaded, _, grouped, sources, _⟩ | ⟨f, failed, _⟩ | ⟨m, failed, _⟩
  · exact ⟨c, es, loaded, grouped, sources⟩
  · rw [failed] at comes
    cases comes
  · rw [failed] at comes
    cases comes

/-- Bytes that are no text, an infinite limit and null for a group that holds paths are not
refused, and null for another group is let in. -/
theorem load_escapes :
    (fileExists (alone tomlFile [255]) tomlFile = .ok true ∧
      Text.lower tomlFile.suffix = ".toml" ∧
      ∃ m, load (alone tomlFile [255]) tomlFile = .error (.mishap m) ∧ m.kind = .undecodable) ∧
    Text.lower jsonFile.suffix = ".json" ∧
    (∃ m, load (alone jsonFile (asciiBytes
        "\x7b\"bounds\": \x7b\"file_limit\": Infinity\x7d\x7d")) jsonFile =
      .error (.mishap m) ∧ m.kind = .overflow) ∧
    (∃ m, load (alone jsonFile (asciiBytes "\x7b\"sources\": null\x7d")) jsonFile =
      .error (.mishap m) ∧ m.kind = .noField) ∧
    ∃ c, load (alone jsonFile (asciiBytes "\x7b\"bounds\": null\x7d")) jsonFile = .ok c ∧
      c.bounds = .other .null := by
  refine ⟨⟨rfl, by decide +kernel, exists_mishap (by decide +kernel)⟩, by decide +kernel,
    exists_mishap (by decide +kernel), exists_mishap (by decide +kernel), ?_⟩
  refine exists_nullBounds ?_
  decide +kernel

end Quire.Config
