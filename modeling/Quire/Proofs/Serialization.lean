import Quire.Proofs.Ingredients
import Quire.Proofs.Tables

/-! Which aggregates can be written in both formats. In YAML every key becomes text first;
in JSON only some kinds of key have a form. Where all keys have one, a value that can be
written as YAML can be written as JSON. -/

namespace Quire

namespace Value

/-- Keys that JSON has a form for. -/
def isJsonKey : Value → Bool
  | .null | .bool _ | .int _ | .real _ | .str _ => true
  | _ => false

/-- Whether JSON has a form for every key of every mapping. A set is written as one text,
whatever lies in it. -/
def isKeyed (v : Value) : Bool := v.everyKey isJsonKey

theorem allWritable_iff {xs : List Value} :
    allWritable xs = true ↔ ∀ x ∈ xs, x.isWritable = true := by
  induction xs with
  | nil => simp [allWritable]
  | cons x xs ih => simp [allWritable, ih]

theorem fieldsWritable_iff {es : Entries} :
    fieldsWritable es = true ↔ ∀ e ∈ es, e.1.isWritable = true ∧ e.2.isWritable = true := by
  induction es with
  | nil => simp [fieldsWritable]
  | cons e es ih => simp [fieldsWritable, ih]

theorem isKeyed_hereditary :
    Hereditary (fun k => k.isJsonKey = true) (fun v => v.isKeyed = true) :=
  everyKey_hereditary fun _ => rfl

theorem isWritable_hereditary :
    Hereditary (fun k => k.isWritable = true) (fun v => v.isWritable = true) where
  text _ := rfl
  list _ := allWritable_iff
  tuple _ := allWritable_iff
  map _ := fieldsWritable_iff

/-! ### Copies -/

theorem isJsonKey_copied (k : Value) : k.copied.isJsonKey = k.isJsonKey := by cases k <;> rfl

theorem isKeyed_copied (v : Value) : v.copied.isKeyed = v.isKeyed :=
  everyKey_copied isJsonKey_copied v

mutual

theorem isWritable_copied : ∀ v : Value, v.copied.isWritable = v.isWritable
  | .list xs => by simpa only [copied, isWritable] using allWritable_copied xs
  | .tuple xs => by simpa only [copied, isWritable] using allWritable_copied xs
  | .map es => by simpa only [copied, isWritable] using fieldsWritable_copied es
  | .missing _ | .null | .bool _ | .int _ | .real _ | .str _ | .date _ | .moment _ | .time _
  | .bytes _ | .set _ | .cycle _ => rfl

theorem allWritable_copied : ∀ xs : List Value, allWritable (copiedList xs) = allWritable xs
  | [] => rfl
  | x :: xs => by simp only [copiedList, allWritable, isWritable_copied x, allWritable_copied xs]

theorem fieldsWritable_copied : ∀ es : List (Value × Value),
    fieldsWritable (copiedEntries es) = fieldsWritable es
  | [] => rfl
  | (k, v) :: es => by
    simp only [copiedEntries, fieldsWritable, isWritable_copied k, isWritable_copied v,
      fieldsWritable_copied es]

end

/-! ### Depth -/

mutual

/-- What is nested in no more than some levels is nested in no more than a larger number. -/
theorem isDeeper_mono : ∀ (v : Value) {n m : Nat}, n ≤ m → v.isDeeper n = false →
    v.isDeeper m = false
  | .list xs, _, _, le, shallow => by
    simp only [isDeeper, Bool.or_eq_false_iff, decide_eq_false_iff_not] at shallow ⊢
    exact ⟨by omega, anyDeeper_mono xs (by omega) shallow.2⟩
  | .tuple xs, _, _, le, shallow => by
    simp only [isDeeper, Bool.or_eq_false_iff, decide_eq_false_iff_not] at shallow ⊢
    exact ⟨by omega, anyDeeper_mono xs (by omega) shallow.2⟩
  | .map es, _, _, le, shallow => by
    simp only [isDeeper, Bool.or_eq_false_iff, decide_eq_false_iff_not] at shallow ⊢
    exact ⟨by omega, anyFieldDeeper_mono es (by omega) shallow.2⟩
  | .set xs, _, _, le, shallow => by
    simp only [isDeeper, Bool.or_eq_false_iff, decide_eq_false_iff_not] at shallow ⊢
    exact ⟨by omega, anyDeeper_mono xs (by omega) shallow.2⟩
  | .cycle _, _, _, _, shallow => shallow
  | .missing _, _, _, _, _ | .null, _, _, _, _ | .bool _, _, _, _, _ | .int _, _, _, _, _
  | .real _, _, _, _, _ | .str _, _, _, _, _ | .date _, _, _, _, _ | .moment _, _, _, _, _
  | .time _, _, _, _, _ | .bytes _, _, _, _, _ => rfl

theorem anyDeeper_mono : ∀ (xs : List Value) {n m : Nat}, n ≤ m → anyDeeper n xs = false →
    anyDeeper m xs = false
  | [], _, _, _, _ => rfl
  | x :: xs, _, _, le, shallow => by
    simp only [anyDeeper, Bool.or_eq_false_iff] at shallow ⊢
    exact ⟨isDeeper_mono x le shallow.1, anyDeeper_mono xs le shallow.2⟩

theorem anyFieldDeeper_mono : ∀ (es : List (Value × Value)) {n m : Nat}, n ≤ m →
    anyFieldDeeper n es = false → anyFieldDeeper m es = false
  | [], _, _, _, _ => rfl
  | (k, v) :: es, _, _, le, shallow => by
    simp only [anyFieldDeeper, Bool.or_eq_false_iff] at shallow ⊢
    exact ⟨⟨isDeeper_mono k le shallow.1.1, isDeeper_mono v le shallow.1.2⟩,
      anyFieldDeeper_mono es le shallow.2⟩

end

end Value

namespace Json

open Value (isJsonKey isKeyed everyKey everyKeyOfAll everyKeyOfFields)

variable {α β : Type} {style : Style}

/-- How writing ends: with something written where all keys have a form, and otherwise
with what is wrong with a key that has none. -/
def Ends (keyed : Bool) (r : Except Mishap α) : Prop :=
  match keyed with
  | true => ∃ written, r = .ok written
  | false => ∃ k m, k.isJsonKey = false ∧ keyText k = .error m ∧ r = .error m

theorem Ends.ok (a : α) : Ends true (.ok a : Except Mishap α) := ⟨a, rfl⟩

theorem Ends.bind {a b : Bool} {x : Except Mishap α} {f : α → Except Mishap β}
    (first : Ends a x) (next : ∀ v, x = .ok v → Ends b (f v)) : Ends (a && b) (x >>= f) := by
  cases a with
  | false =>
    obtain ⟨k, m, other, wrong, rfl⟩ := first
    exact ⟨k, m, other, wrong, rfl⟩
  | true =>
    obtain ⟨v, rfl⟩ := first
    exact next v rfl

/-- A last step that cannot go wrong. -/
theorem Ends.map {a : Bool} {x : Except Mishap α} (first : Ends a x) (f : α → β) :
    Ends a (x >>= fun v => .ok (f v)) := by
  simpa using first.bind (b := true) fun v _ => Ends.ok (f v)

theorem wholeText_eq_ok {n : Int} (writable : Numeral.isWritable n = true) :
    wholeText n = .ok (toString n) := by rw [wholeText, if_pos writable]

theorem wholeText_ok {n : Int} {text : String} (written : wholeText n = .ok text) :
    Numeral.isWritable n = true := by
  unfold wholeText at written
  split at written
  · next few => exact few
  · cases written

theorem keyText_ends {k : Value} (writable : k.isWritable = true) :
    Ends k.isJsonKey (keyText k) := by
  cases h : k with
  | int n =>
    rw [h, Value.isWritable] at writable
    exact ⟨toString n, wholeText_eq_ok writable⟩
  | null | bool _ | real _ | str _ => exact ⟨_, rfl⟩
  | _ => exact ⟨k, _, by rw [h]; rfl, by rw [h]; rfl, rfl⟩

theorem rest_ok (plain : style.plainRest = true) {v : Value} (writable : v.isWritable = true) :
    rest style v = .ok (quote style.asciiOnly v.plain) := by
  simp [rest, plain, writable]

/-- Room for another level, and for what lies below it. -/
theorem enter_ok {level n : Nat} (room : level + n ≤ depthLimit) (opens : n ≠ 0) :
    style.enter level = .ok () := if_pos (by omega)

mutual

/-- Writing goes wrong over a key or not at all. -/
theorem writeValue_ends (plain : style.plainRest = true) : ∀ (v : Value) (level n : Nat),
    level + n ≤ depthLimit → v.isDeeper n = false → v.isWritable = true →
    Ends (v.everyKey isJsonKey) (writeValue style level v)
  | .null | .bool _ | .real _ | .str _ => by
    intro level n _ _ _
    simp only [writeValue, everyKey]
    exact Ends.ok _
  | .int i => by
    intro level n _ _ writable
    rw [Value.isWritable] at writable
    simp only [writeValue, everyKey, wholeText_eq_ok writable]
    exact Ends.ok _
  | .list xs => by
    intro level n room shallow writable
    simp only [Value.isDeeper, Bool.or_eq_false_iff, decide_eq_false_iff_not] at shallow
    rw [Value.isWritable] at writable
    have items := writeItems_ends plain xs (level + 1) (n - 1) (by omega) shallow.2 writable
    simp only [writeValue, enter_ok room shallow.1, everyKey]
    exact items.map _
  | .tuple xs => by
    intro level n room shallow writable
    simp only [Value.isDeeper, Bool.or_eq_false_iff, decide_eq_false_iff_not] at shallow
    rw [Value.isWritable] at writable
    have items := writeItems_ends plain xs (level + 1) (n - 1) (by omega) shallow.2 writable
    simp only [writeValue, enter_ok room shallow.1, everyKey]
    exact items.map _
  | .map es => by
    intro level n room shallow writable
    simp only [Value.isDeeper, Bool.or_eq_false_iff, decide_eq_false_iff_not] at shallow
    rw [Value.isWritable] at writable
    have fields := writeFields_ends plain es (level + 1) (n - 1) (by omega) shallow.2 writable
    simp only [writeValue, enter_ok room shallow.1, everyKey]
    exact fields.map _
  | .cycle _ => by
    intro level n _ shallow _
    simp [Value.isDeeper] at shallow
  | .date _ | .moment _ | .time _ | .bytes _ | .set _ | .missing _ => by
    intro level n _ _ writable
    simp only [writeValue, everyKey, rest_ok plain writable]
    exact Ends.ok _

theorem writeItems_ends (plain : style.plainRest = true) : ∀ (xs : List Value) (level n : Nat),
    level + n ≤ depthLimit → Value.anyDeeper n xs = false → Value.allWritable xs = true →
    Ends (everyKeyOfAll isJsonKey xs) (writeItems style level xs)
  | [] => fun _ _ _ _ _ => Ends.ok []
  | x :: xs => by
    intro level n room shallow writable
    simp only [Value.anyDeeper, Bool.or_eq_false_iff] at shallow
    simp only [Value.allWritable, Bool.and_eq_true] at writable
    have first := writeValue_ends plain x level n room shallow.1 writable.1
    have others := writeItems_ends plain xs level n room shallow.2 writable.2
    exact first.bind fun text _ => others.map _

theorem writeFields_ends (plain : style.plainRest = true) :
    ∀ (es : List (Value × Value)) (level n : Nat),
    level + n ≤ depthLimit → Value.anyFieldDeeper n es = false →
    Value.fieldsWritable es = true →
      Ends (everyKeyOfFields isJsonKey es) (writeFields style level es)
  | [] => fun _ _ _ _ _ => Ends.ok []
  | (k, v) :: es => by
    intro level n room shallow writable
    simp only [Value.anyFieldDeeper, Bool.or_eq_false_iff] at shallow
    simp only [Value.fieldsWritable, Bool.and_eq_true] at writable
    have key := keyText_ends writable.1.1
    have value := writeValue_ends plain v level n room shallow.1.2 writable.1.2
    have others := writeFields_ends plain es level n room shallow.2 writable.2
    rw [everyKeyOfFields, Bool.and_assoc]
    exact key.bind fun text _ => value.bind fun text' _ => others.map _

end

theorem keyText_ok {k : Value} {text : String} (written : keyText k = .ok text) :
    k.isJsonKey = true ∧ k.isWritable = true := by
  cases k with
  | int n => exact ⟨rfl, by rw [Value.isWritable, wholeText_ok written]⟩
  | null | bool _ | real _ | str _ => exact ⟨rfl, rfl⟩
  | _ => cases written

theorem rest_writable {v : Value} {text : String} (written : rest style v = .ok text) :
    v.isWritable = true := by
  unfold rest at written
  split at written
  · cases written
  · split at written
    · next few => exact few
    · cases written

mutual

/-- What is written has keys with a form, and numbers with few enough digits. -/
theorem writeValue_ok : ∀ (v : Value) {level : Nat} {text : String},
    writeValue style level v = .ok text → v.everyKey isJsonKey = true ∧ v.isWritable = true
  | .null | .bool _ | .real _ | .str _ | .date _ | .moment _ | .time _ | .bytes _
  | .missing _ => by simp [everyKey, Value.isWritable]
  | .int n => by
    intro written
    rw [writeValue] at written
    simp [everyKey, Value.isWritable, wholeText_ok written]
  | .list xs => by
    intro written
    rw [writeValue] at written
    obtain ⟨_, _, written⟩ := bind_eq_ok.mp written
    obtain ⟨_, items, _⟩ := bind_eq_ok.mp written
    simpa only [everyKey, Value.isWritable] using writeItems_ok xs items
  | .tuple xs => by
    intro written
    rw [writeValue] at written
    obtain ⟨_, _, written⟩ := bind_eq_ok.mp written
    obtain ⟨_, items, _⟩ := bind_eq_ok.mp written
    simpa only [everyKey, Value.isWritable] using writeItems_ok xs items
  | .map es => by
    intro written
    rw [writeValue] at written
    obtain ⟨_, _, written⟩ := bind_eq_ok.mp written
    obtain ⟨_, fields, _⟩ := bind_eq_ok.mp written
    simpa only [everyKey, Value.isWritable] using writeFields_ok es fields
  | .cycle _ => by
    intro written
    rw [writeValue] at written
    cases written
  | .set xs => by
    intro written
    rw [writeValue] at written
    exact ⟨by simp only [everyKey], rest_writable written⟩

theorem writeItems_ok : ∀ (xs : List Value) {level : Nat} {texts : List String},
    writeItems style level xs = .ok texts →
      everyKeyOfAll isJsonKey xs = true ∧ Value.allWritable xs = true
  | [] => fun _ => ⟨rfl, rfl⟩
  | x :: xs => by
    intro written
    obtain ⟨_, first, written⟩ := bind_eq_ok.mp written
    obtain ⟨_, others, _⟩ := bind_eq_ok.mp written
    have here := writeValue_ok x first
    have later := writeItems_ok xs others
    simp [everyKeyOfAll, Value.allWritable, here, later]

theorem writeFields_ok : ∀ (es : List (Value × Value)) {level : Nat}
    {texts : List (String × String)}, writeFields style level es = .ok texts →
    everyKeyOfFields isJsonKey es = true ∧ Value.fieldsWritable es = true
  | [] => fun _ => ⟨rfl, rfl⟩
  | (k, v) :: es => by
    intro written
    obtain ⟨_, key, written⟩ := bind_eq_ok.mp written
    obtain ⟨_, value, written⟩ := bind_eq_ok.mp written
    obtain ⟨_, others, _⟩ := bind_eq_ok.mp written
    have head := keyText_ok key
    have here := writeValue_ok v value
    have later := writeFields_ok es others
    simp [everyKeyOfFields, Value.fieldsWritable, head, here, later]

end

theorem write_ends {v : Value} (plain : style.plainRest = true)
    (shallow : v.isDeeper depthLimit = false) (writable : v.isWritable = true) :
    Ends v.isKeyed (write style v) :=
  writeValue_ends plain v 0 depthLimit (by omega) shallow writable

end Json

/-! ### Records -/

namespace Value

/-- Keys that JSON has a form for, in so many levels at most. -/
def Shaped (levels : Nat) (v : Value) : Prop := v.isKeyed = true ∧ v.isDeeper levels = false

theorem Shaped.mono {n m : Nat} {v : Value} (shaped : v.Shaped n) (le : n ≤ m) : v.Shaped m :=
  ⟨shaped.1, v.isDeeper_mono le shaped.2⟩

@[simp] theorem shaped_str (n : Nat) (text : String) : (Value.str text).Shaped n := ⟨rfl, rfl⟩

@[simp] theorem shaped_int (n : Nat) (i : Int) : (Value.int i).Shaped n := ⟨rfl, rfl⟩

@[simp] theorem shaped_real (n : Nat) (x : Binary64) : (Value.real x).Shaped n := ⟨rfl, rfl⟩

@[simp] theorem shaped_bool (n : Nat) (b : Bool) : (Value.bool b).Shaped n := ⟨rfl, rfl⟩

end Value

/-- What has a shape for JSON and numbers with few enough digits is written. -/
theorem Json.write_shaped {style : Style} {v : Value} (plain : style.plainRest = true)
    (shaped : v.Shaped depthLimit) (writable : v.isWritable = true) :
    ∃ text, write style v = .ok text := by
  have ends := write_ends plain shaped.2 writable
  rwa [shaped.1] at ends

/-! ### Both formats -/

theorem serialize_yaml_isOk {v : Value} :
    (∃ text, serialize v "yaml" = .ok text) ↔
      v.isDeeper Yaml.depthLimit = false ∧ v.isWritable = true := by
  unfold serialize Yaml.obstacle?
  cases v.isDeeper Yaml.depthLimit <;> cases v.isWritable <;> simp

theorem serialize_json (v : Value) :
    serialize v "json" = Json.write .document v >>= fun text => .ok (text ++ "\n") := by
  unfold serialize
  rw [if_neg (by decide)]
  rfl

theorem serialize_json_ends {v : Value} (shallow : v.isDeeper Json.depthLimit = false)
    (writable : v.isWritable = true) : Json.Ends v.isKeyed (serialize v "json") :=
  serialize_json v ▸ (Json.write_ends rfl shallow writable).map _

theorem serialize_json_ok {v : Value} {text : String} (written : serialize v "json" = .ok text) :
    v.isKeyed = true ∧ v.isWritable = true := by
  rw [serialize_json] at written
  obtain ⟨_, whole, _⟩ := bind_eq_ok.mp written
  exact Json.writeValue_ok v whole

/-- What YAML can be written for can be written as JSON exactly when JSON has a form for
every key, and otherwise a key without one is what is wrong. -/
theorem serialize_json_of_yaml {v : Value} {text : String}
    (written : serialize v "yaml" = .ok text) : Json.Ends v.isKeyed (serialize v "json") := by
  obtain ⟨shallow, writable⟩ := serialize_yaml_isOk.mp ⟨text, written⟩
  exact serialize_json_ends (v.isDeeper_mono (by decide) shallow) writable

/-- What JSON can be written for can be written as YAML unless it is nested too deep. -/
theorem serialize_yaml_of_json {v : Value} {text : String}
    (written : serialize v "json" = .ok text) :
    (∃ text, serialize v "yaml" = .ok text) ↔ v.isDeeper Yaml.depthLimit = false := by
  rw [serialize_yaml_isOk]
  exact and_iff_left (serialize_json_ok written).2

/-! ### Documents without YAML -/

namespace Frontmatter

/-- Whether a text opens with a block of YAML. -/
def hasYaml (text : String) : Bool := (split text.toList).any fun parts => parts.fence = .dashes

theorem textKeys_keyed {es fs : Entries} (keyed : (Value.map es).isKeyed = true)
    (named : textKeys es = .ok fs) : (Value.map fs).isKeyed = true := by
  have parts := (Value.isKeyed_hereditary.map es).mp keyed
  unfold textKeys at named
  split at named
  · obtain rfl := Except.ok.inj named
    refine Value.isKeyed_hereditary.ofList ((Value.isKeyed_hereditary.map _).mpr fun e inside => ?_)
    obtain ⟨e', there, rfl⟩ := List.mem_map.mp inside
    exact ⟨rfl, (parts e' there).2⟩
  · cases named

/-- TOML has no other keys than texts. -/
theorem extract_keyed {requireBlock : Bool} {content : String} {path : Option String}
    {found : Extracted} (toml : hasYaml content = false)
    (extracted : extract requireBlock content path = .ok found) :
    (Value.map found.metadata).isKeyed = true := by
  unfold extract at extracted
  split at extracted
  · split at extracted
    · cases extracted
    · cases extracted
      rfl
  · next parts whole =>
    obtain ⟨v, read, extracted⟩ := bind_eq_ok.mp extracted
    have pluses : parts.fence = .pluses := by
      cases fence : parts.fence with
      | pluses => rfl
      | dashes => simp [hasYaml, whole, fence] at toml
    rw [pluses] at read
    unfold parse at read
    dsimp only at read
    split at read
    · next es parsed =>
      obtain rfl := Except.ok.inj read
      obtain ⟨fs, named, extracted⟩ := bind_eq_ok.mp extracted
      obtain rfl := Except.ok.inj extracted
      have keyed := (Toml.everyKey_reads (p := Value.isJsonKey) fun _ => rfl).read parsed
      exact textKeys_keyed keyed (lift_eq_ok.mp named)
    · cases read

end Frontmatter

namespace Pipeline

variable {s : Session} {schema : Schema} {files : List String} {rules : Option RuleSet}
  {bounds : Option Bounds} {options : Option ProcessingConfig} {outcome : ProcessingOutcome}

theorem aggregate_keyed {documents : List Document} {data : Entries} {report : AggregationReport}
    (keyed : ∀ d ∈ documents, (Value.map d.metadata).isKeyed = true)
    (defaults : ∀ b ∈ schema.baseProperties, ∀ value, b.default = some value →
      value.isKeyed = true)
    (made : (aggregate schema documents).result = .ok (data, report)) :
    (Value.map data).isKeyed = true :=
  Value.isKeyed_hereditary.aggregate keyed (fun b inside value default =>
    (Value.isKeyed_copied value).trans (defaults b inside value default)) made

theorem aggregate_writable {documents : List Document} {data : Entries}
    {report : AggregationReport}
    (writable : ∀ d ∈ documents, (Value.map d.metadata).isWritable = true)
    (defaults : ∀ b ∈ schema.baseProperties, ∀ value, b.default = some value →
      value.isWritable = true)
    (made : (aggregate schema documents).result = .ok (data, report)) :
    (Value.map data).isWritable = true :=
  Value.isWritable_hereditary.aggregate writable (fun b inside value default =>
    (Value.isWritable_copied value).trans (defaults b inside value default)) made

/-- Documents read by the own extractor have no keys but those JSON has a form for, unless
YAML gives them others. -/
theorem processDocuments_toml_keyed (known : s.pipeline.schema = some schema)
    (own : s.pipeline.replacement.extract = none)
    (done : ((processDocuments files rules bounds options).run s).1 = .ok outcome)
    (toml : ∀ d ∈ outcome.documents, ∀ text,
      s.pipeline.sources.read s.tree d.path = .ok text → Frontmatter.hasYaml text = false) :
    ∀ d ∈ outcome.documents, (Value.map d.metadata).isKeyed = true := by
  obtain ⟨flatten, _, taken, _⟩ := processDocuments_parts known done
  intro d inside
  obtain ⟨path, taken⟩ := taken d inside
  obtain ⟨text, found, read, extracted, flattened, _⟩ := Intake.process_eq_ok taken
  change s.pipeline.sources.extract text d.path = .ok found at extracted
  rw [Pipeline.sources, SourceConfig.sources, own] at extracted
  exact Value.isKeyed_hereditary.flattenAll
    (Frontmatter.extract_keyed (toml d inside text read) extracted) flattened

/-- Where JSON has a form for every key in the documents and in the defaults, and the
numbers in them have few enough digits, the aggregate can be written in both formats if it
is not nested too deep. Documents that the own extractor reads have only such keys, unless
they are in YAML. Whatever the aggregate holds, when it can be written as YAML it can be
written as JSON just when JSON has a form for every key, and a key without one is what is
wrong otherwise; when it can be written as JSON it can be written as YAML just when it is
not nested too deep. -/
theorem processDocuments_serializes (known : s.pipeline.schema = some schema)
    (done : ((processDocuments files rules bounds options).run s).1 = .ok outcome) :
    ((∀ d ∈ outcome.documents, (Value.map d.metadata).isKeyed = true ∧
        (Value.map d.metadata).isWritable = true) →
      (∀ b ∈ schema.baseProperties, ∀ value, b.default = some value →
        value.isKeyed = true ∧ value.isWritable = true) →
      (Value.map outcome.data).isDeeper Yaml.depthLimit = false →
      (∃ text, serialize (.map outcome.data) "json" = .ok text) ∧
      ∃ text, serialize (.map outcome.data) "yaml" = .ok text) ∧
    (s.pipeline.replacement.extract = none →
      (∀ d ∈ outcome.documents, ∀ text,
        s.pipeline.sources.read s.tree d.path = .ok text → Frontmatter.hasYaml text = false) →
      ∀ d ∈ outcome.documents, (Value.map d.metadata).isKeyed = true) ∧
    (∀ text, serialize (.map outcome.data) "yaml" = .ok text →
      ((∃ text, serialize (.map outcome.data) "json" = .ok text) ↔
        (Value.map outcome.data).isKeyed = true) ∧
      ((Value.map outcome.data).isKeyed = false →
        ∃ k m, k.isJsonKey = false ∧ Json.keyText k = .error m ∧
          serialize (.map outcome.data) "json" = .error m)) ∧
    (∀ text, serialize (.map outcome.data) "json" = .ok text →
      ((∃ text, serialize (.map outcome.data) "yaml" = .ok text) ↔
        (Value.map outcome.data).isDeeper Yaml.depthLimit = false)) := by
  obtain ⟨_, aggregated⟩ := processDocuments_eq_ok known done
  refine ⟨fun documents defaults shallow => ?_,
    fun own toml => processDocuments_toml_keyed known own done toml, fun text written => ?_,
    fun text written => serialize_yaml_of_json written⟩
  · have keyed := aggregate_keyed (fun d inside => (documents d inside).1)
      (fun b inside value default => (defaults b inside value default).1) aggregated
    have writable := aggregate_writable (fun d inside => (documents d inside).2)
      (fun b inside value default => (defaults b inside value default).2) aggregated
    obtain ⟨text, written⟩ := serialize_yaml_isOk.mpr ⟨shallow, writable⟩
    have json := serialize_json_of_yaml written
    rw [keyed] at json
    exact ⟨json, text, written⟩
  · have json := serialize_json_of_yaml written
    refine ⟨⟨fun ⟨_, ok⟩ => (serialize_json_ok ok).1, fun keyed => ?_⟩, fun other => ?_⟩
    · rwa [keyed] at json
    · rwa [other] at json

/-- Nothing is collected, and a kind is filled in. -/
def meetings : Schema :=
  ⟨.record [("properties", .record [("kind", .record
    [(Schema.Directive.baseProperty, .bool true), ("default", .str "agenda")])])], none⟩

/-- A session in which every file has the same metadata. -/
def agenda (metadata : Entries) : Session where
  pipeline := { (notebook metadata).pipeline with schema := some meetings }
  tree := ⟨[], []⟩
  gauges := .still

theorem processDocuments_serializes_titled : ∃ outcome,
    ((processDocuments ["a.md"] none (some .unbounded) none).run
      (agenda [(.str "title", .str "x")])).1 = .ok outcome ∧
    (∃ text, serialize (.map outcome.data) "json" = .ok text) ∧
    ∃ text, serialize (.map outcome.data) "yaml" = .ok text := by
  have ran : ∃ outcome, ((processDocuments ["a.md"] none (some .unbounded) none).run
        (agenda [(.str "title", .str "x")])).1 = .ok outcome ∧
      outcome.documents.map Document.metadata = [[(.str "title", .str "x")]] ∧
      outcome.data = [(.str "title", .str "x"), (.str "kind", .str "agenda")] := by
    with_unfolding_all exact ⟨_, rfl, rfl, rfl⟩
  obtain ⟨outcome, ran, documents, data⟩ := ran
  refine ⟨outcome, ran, (processDocuments_serializes rfl ran).1 (fun d inside => ?_)
    (fun b declared value default => ?_) ?_⟩
  · have metadata := List.mem_map_of_mem (f := Document.metadata) inside
    rw [documents, List.mem_singleton] at metadata
    rw [metadata]
    exact ⟨rfl, rfl⟩
  · have defaults : meetings.baseProperties = [⟨"kind", some (.str "agenda")⟩] := by
      with_unfolding_all rfl
    rw [defaults, List.mem_singleton] at declared
    obtain rfl : Value.str "agenda" = value := by simpa [declared] using default
    exact ⟨rfl, rfl⟩
  · rw [data]
    decide +kernel

/-- The metadata of a file has a mapping whose key is a date. Only YAML has a form for it. -/
theorem processDocuments_dated_key : ∃ outcome,
    ((processDocuments ["a.md"] none (some .unbounded) none).run
      (agenda [(.str "m", .map [(.date ⟨2024, 1, 2⟩, .str "x")])])).1 = .ok outcome ∧
    (∃ text, serialize (.map outcome.data) "yaml" = .ok text) ∧
    serialize (.map outcome.data) "json" =
      .error (.badKind "keys must be str, int, float, bool or None, not date") := by
  have ran : ∃ outcome, ((processDocuments ["a.md"] none (some .unbounded) none).run
        (agenda [(.str "m", .map [(.date ⟨2024, 1, 2⟩, .str "x")])])).1 = .ok outcome ∧
      outcome.data = [(.str "m", .map [(.date ⟨2024, 1, 2⟩, .str "x")]),
        (.str "kind", .str "agenda")] := by
    with_unfolding_all exact ⟨_, rfl, rfl⟩
  obtain ⟨outcome, ran, data⟩ := ran
  refine ⟨outcome, ran, ?_⟩
  rw [data]
  refine ⟨serialize_yaml_isOk.mpr (by decide +kernel), ?_⟩
  rw [serialize_json]
  rfl

end Pipeline
end Quire
