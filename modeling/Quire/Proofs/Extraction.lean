import Quire.Frontmatter
import Quire.Proofs.Named
import Quire.Proofs.Toml.Consumption
import Quire.Proofs.Yaml.Building
import Quire.Proofs.Yaml.Parsing

/-! Extraction of metadata. It gives metadata under names, or it is refused as extraction is; and
what it lets through beside that is in the block, at a place that can be pointed out. -/

namespace Quire.Frontmatter

open Entries

/-- The mishaps that extraction makes no fault of. In TOML these are numbers of too many digits and
brackets without end. In YAML they are escapes of characters that there are not, collections too
deep in others, nodes whose text has no value of their kind, and whole numbers as keys that are too
long to write. -/
inductive Escapes (parts : Parts) : Mishap → Prop
  | digits (toml : parts.fence = .pluses) {run : List Char} (part : run <:+: parts.block)
      (marks : ∀ c ∈ run, c.isDigit = true ∨ c = '_')
      (long : Numeral.digitLimit < run.countP Char.isDigit) :
      Escapes parts (.badValue (Numeral.tooLong (run.countP Char.isDigit)))
  | brackets (toml : parts.fence = .pluses)
      (many : Toml.nestingLimit ≤ 3 * parts.block.countP Toml.isOpening) :
      Escapes parts (.tooDeep " in comparison")
  | escape (yaml : parts.fence = .dashes) {t : Yaml.Trouble} (astray : Yaml.Astray parts.block t)
      {m : Mishap} (other : t.toReadError = .mishap m) : Escapes parts m
  | nesting (yaml : parts.fence = .dashes)
      (many : Yaml.Stream.depthLimit ≤
        2 * (Yaml.Token.scan parts.block).1.toList.countP Yaml.Token.opens) :
      Escapes parts (.tooDeep " while calling a Python object")
  | node (yaml : parts.fence = .dashes) {root n : Yaml.Node}
      (tree : Yaml.Node.ofText parts.block = .ok (some root)) (within : root.Within n)
      {t : Yaml.Trouble} (wrong : n.start = .error t) {m : Mishap}
      (other : t.toReadError = .mishap m) (lapse : t = .endless ∨ m.kind ∈ n.kind.lapses) :
      Escapes parts m
  | key (yaml : parts.fence = .dashes) {root n : Yaml.Node}
      (tree : Yaml.Node.ofText parts.block = .ok (some root)) (within : root.Within n) {i : Int}
      (whole : n.start = .ok (.int i)) (long : Numeral.isWritable i = false) :
      Escapes parts (.badValue Numeral.unwritable)

variable {parts : Parts} {path : Option String}

theorem textKeys_named {es fs : Entries} (came : textKeys es = .ok fs) : Named fs := by
  unfold textKeys at came
  split at came
  · obtain rfl := Except.ok.inj came
    refine Named.ofList fun k inside => ?_
    obtain ⟨_, there, rfl⟩ := List.mem_map.mp inside
    obtain ⟨e, _, rfl⟩ := List.mem_map.mp there
    exact ⟨e.1.plain, rfl⟩
  · cases came

theorem textKeys_error {es : Entries} {m : Mishap} (failed : textKeys es = .error m) :
    m = .badValue Numeral.unwritable ∧ ∃ k ∈ keys es, k.isWritable = false := by
  unfold textKeys at failed
  split at failed
  · cases failed
  · next unwritable =>
    refine ⟨(Except.error.inj failed).symm, ?_⟩
    simpa using unwritable

/-- Names can always be written. -/
theorem textKeys_ok {es : Entries} (named : Named es) {m : Mishap} : textKeys es ≠ .error m := by
  intro failed
  obtain ⟨_, k, inside, long⟩ := textKeys_error failed
  obtain ⟨name, rfl⟩ := named k inside
  cases long

/-- What a block is refused for, as extraction is, or lets through. -/
def Refused (parts : Parts) (path : Option String) (e : Failure) : Prop :=
  (∃ f, e = .fault f ∧ f.kind = .extraction ∧ f.path = path) ∨ ∃ m, e = .mishap m ∧ Escapes parts m

theorem toml_escapes (toml : parts.fence = .pluses) {e : Toml.Trouble}
    (failed : Toml.read (String.ofList parts.block) = .error e) {m : Mishap}
    (other : e.mishap? = some m) : Escapes parts m := by
  have ahead := Toml.read_error failed
  rw [String.toList_ofList] at ahead
  cases ahead with
  | malformed => cases other
  | digits part marks long =>
    cases other
    exact .digits toml part marks long
  | brackets many =>
    cases other
    exact .brackets toml (by simpa using many)

theorem yaml_escapes (yaml : parts.fence = .dashes) {m : Mishap}
    (failed : Yaml.read (String.ofList parts.block) = .error (.mishap m)) : Escapes parts m := by
  unfold Yaml.read at failed
  rw [String.toList_ofList] at failed
  split at failed
  · cases failed
  · next t wrong =>
    have other := Except.error.inj failed
    rcases Yaml.readDocument_error wrong with bad | ⟨root, tree, blames⟩
    · rcases Yaml.ofText_error bad with astray | ⟨rfl, many⟩
      · exact .escape yaml astray other
      · cases other
        exact .nesting yaml many
    · rcases blames with rfl | ⟨n, within, wrong⟩
      · cases other
      · rcases (Yaml.Node.start_gives n).failed t wrong with rfl | endless | ⟨m', same, lapse⟩
        · cases other
        · exact .node yaml tree within wrong other (.inl endless)
        · rw [other] at same
          cases same
          exact .node yaml tree within wrong other (.inr lapse)

/-- A key of a document that cannot be written is a whole number of its tree. -/
theorem yaml_key_escapes (yaml : parts.fence = .dashes) {es : Entries}
    (read : Yaml.read (String.ofList parts.block) = .ok (.map es)) {m : Mishap}
    (failed : textKeys es = .error m) : Escapes parts m := by
  obtain ⟨rfl, k, inside, long⟩ := textKeys_error failed
  unfold Yaml.read at read
  rw [String.toList_ofList] at read
  split at read
  · next v came =>
    obtain rfl := Except.ok.inj read
    obtain ⟨root, tree, started⟩ := Yaml.readDocument_map came
    obtain ⟨n, known, whole⟩ := started k inside
    rcases (Yaml.Node.start_gives n).found k whole with rfl | ⟨i, rfl⟩ | ⟨writable, _⟩
    · cases long
    · rcases known with within | ⟨text, rfl⟩
      · exact .key yaml tree within whole long
      · cases whole
    · rw [writable] at long
      cases long
  · cases read

/-- A block gives a value that has only names as keys, or else a place for the trouble in them. -/
theorem parse_gives (parts : Parts) (path : Option String) :
    Gives (Refused parts path)
      (fun v => ∀ es, v = .map es → ∀ m, textKeys es = .error m → Escapes parts m)
      (parse parts.fence parts.block path) := by
  unfold parse
  split
  · next toml =>
    split
    · next es read =>
      refine .ok ?_
      rintro _ same m failed
      obtain rfl := Value.map.inj same
      exact absurd failed (textKeys_ok (Toml.read_named read))
    · next e failed =>
      refine .error ?_
      split
      · next m other => exact .inr ⟨m, rfl, toml_escapes toml failed other⟩
      · exact .inl ⟨_, rfl, rfl, rfl⟩
  · next yaml =>
    split
    · next v read =>
      refine .ok ?_
      rintro es rfl m failed
      exact yaml_key_escapes yaml read failed
    · next m failed => exact .error (.inr ⟨m, rfl, yaml_escapes yaml failed⟩)
    · exact .error (.inl ⟨_, rfl, rfl, rfl⟩)

theorem extract_gives {content : String} (found : split content.toList = some parts)
    (requireBlock : Bool) (path : Option String) :
    Gives (Refused parts path) (fun e => Named e.metadata) (extract requireBlock content path) := by
  unfold extract
  rw [found]
  refine (parse_gives parts path).bind fun v keyed => ?_
  split
  · exact .ok named_nil
  · next es =>
    cases named : textKeys es with
    | ok fs => exact .ok (textKeys_named named)
    | error m => exact .error (.inr ⟨m, rfl, keyed es rfl m named⟩)
  · exact .error (.inl ⟨_, rfl, rfl, rfl⟩)

/-- Extraction gives metadata under names, or is refused with a fault of its own at the path it was
given, or lets a mishap through whose cause is in the block. -/
theorem extract_ends (requireBlock : Bool) (content : String) (path : Option String) :
    (∃ e, extract requireBlock content path = .ok e ∧ Named e.metadata) ∨
    (∃ f, extract requireBlock content path = .error (.fault f) ∧ f.kind = .extraction ∧
      f.path = path) ∨
    ∃ m parts, extract requireBlock content path = .error (.mishap m) ∧
      split content.toList = some parts ∧ Escapes parts m := by
  cases found : split content.toList with
  | none =>
    unfold extract
    rw [found]
    cases requireBlock with
    | true => exact .inr (.inl ⟨_, rfl, rfl, rfl⟩)
    | false => exact .inl ⟨_, rfl, named_nil⟩
  | some parts =>
    have gives := extract_gives found requireBlock path
    cases came : extract requireBlock content path with
    | ok e => exact .inl ⟨e, rfl, gives.found e came⟩
    | error e =>
      rcases gives.failed e came with ⟨f, rfl, kind, same⟩ | ⟨m, rfl, escapes⟩
      · exact .inr (.inl ⟨f, rfl, kind, same⟩)
      · exact .inr (.inr ⟨m, parts, rfl, rfl, escapes⟩)

open Yaml

/-- Whether a text is one pair of plain scalars, the second of which is to be a time. -/
def datedOnly (key time : String) : Option Node → Bool
  | some (.mapping .mapping [(.scalar .str k, .scalar .timestamp v)]) => k = key && v = time
  | _ => false

theorem dated_tree : Node.ofText "d: 2024-13-45\n".toList =
    .ok (some (.mapping .mapping [(.scalar .str "d", .scalar .timestamp "2024-13-45")])) := by
  have test : attains (Node.ofText "d: 2024-13-45\n".toList) (datedOnly "d" "2024-13-45") =
      true := by decide +kernel
  obtain ⟨n, read, same⟩ := attains_iff.mp test
  rw [read]
  unfold datedOnly at same
  split at same
  · simp only [Bool.and_eq_true, decide_eq_true_eq] at same
    rw [same.1, same.2]
  · cases same

theorem dated_fill :
    Node.fill (.mapping .mapping [(.scalar .str "d", .scalar .timestamp "2024-13-45")]) =
      .error (.badValue "month must be in 1..12") := by
  change Node.startPairs _ = _
  rw [Node.startPairs]
  simp only [Node.spread, Node.parted]
  rfl

/-- Text with the form of a date that is none is let through as it is, where other bad text is
refused. -/
theorem extract_dated : extract true "---\nd: 2024-13-45\n---\n" none =
    .error (.mishap (.badValue "month must be in 1..12")) := by
  have cut : split "---\nd: 2024-13-45\n---\n".toList =
      some ⟨.dashes, "d: 2024-13-45\n".toList, []⟩ := rfl
  have surveyed : Node.survey 2
      [.mapping .mapping [(.scalar .str "d", .scalar .timestamp "2024-13-45")]] =
        .error (.badValue "month must be in 1..12") := by
    simp only [Node.survey, List.isEmpty_cons, List.mapM_cons, dated_fill]
    rfl
  have wrong : Yaml.readDocument "d: 2024-13-45\n".toList =
      .error (.badValue "month must be in 1..12") :=
    bind_eq_error.mpr (.inr ⟨_, dated_tree, bind_eq_error.mpr (.inr ⟨.map [], rfl,
      bind_eq_error.mpr (.inl surveyed)⟩)⟩)
  have parsed : parse .dashes "d: 2024-13-45\n".toList none =
      .error (.mishap (.badValue "month must be in 1..12")) := by
    simp only [parse, Yaml.read, String.toList_ofList, wrong]
    rfl
  rw [extract, cut]
  exact bind_eq_error.mpr (.inl parsed)

end Quire.Frontmatter
