import Quire.Proofs.Sameness
import Quire.Proofs.Schema.Rules
import Quire.Proofs.Segments

/-! Where the path of a property leads. A property is found under the keys that lead down to it,
and its path tells these keys as text. Looking up the path finds the property again if the keys
are texts and the path reads back as them; otherwise it finds what is declared under the keys
that it does read as, or nothing. -/

namespace Quire.Schema

/-- The properties that a schema declares, under their keys. -/
def declaredIn : Value → Entries
  | .map es => ((Entries.field? es "properties").bind Value.map?).getD []
  | _ => []

/-- A way down the properties of a schema: the keys under which they are declared, and the
property at its end. -/
inductive Way : Value → List Value → Entries → Prop
  | last {node k : Value} {prop : Entries} :
      (k, .map prop) ∈ declaredIn node → Way node [k] prop
  | further {node k : Value} {inner prop : Entries} {keys : List Value} :
      (k, .map inner) ∈ declaredIn node → Way (.map inner) keys prop → Way node (k :: keys) prop

theorem Way.ne_nil {node : Value} {keys : List Value} {prop : Entries}
    (way : Way node keys prop) : keys ≠ [] := by
  cases way <;> exact List.cons_ne_nil _ _

/-! ### Walking -/

theorem propertiesFrom_eq (path : List String) (es : Entries) :
    propertiesFrom path es = declaredFrom path (declaredIn (.map es)) := by
  induction es with
  | nil => rfl
  | cons e es ih =>
    obtain ⟨k, v⟩ := e
    rw [propertiesFrom, declaredIn, Entries.field?, Entries.get?_cons]
    cases here : isField k "properties" with
    | true =>
      rw [isField] at here
      rw [if_pos rfl, if_pos here]
      cases v <;> rfl
    | false =>
      rw [isField] at here
      rw [if_neg Bool.false_ne_true, here, if_neg Bool.false_ne_true]
      exact ih

theorem properties_eq (path : List String) (node : Value) :
    properties path node = declaredFrom path (declaredIn node) := by
  cases node with
  | map es => exact propertiesFrom_eq path es
  | _ => rfl

/-- A property is declared here or below one that is. -/
theorem mem_declaredFrom {path : List String} {props : Entries} {p : List String × Entries} :
    p ∈ declaredFrom path props ↔ ∃ k inner, (k, Value.map inner) ∈ props ∧
      (p = (path ++ [k.plain], inner) ∨ p ∈ properties (path ++ [k.plain]) (.map inner)) := by
  induction props with
  | nil => simp [declaredFrom]
  | cons e props ih =>
    obtain ⟨k, v⟩ := e
    have first : p ∈ (v.map?.map fun prop => (path ++ [k.plain], prop)).toList ++
        properties (path ++ [k.plain]) v ↔ ∃ inner, v = .map inner ∧
          (p = (path ++ [k.plain], inner) ∨ p ∈ properties (path ++ [k.plain]) (.map inner)) := by
      cases v <;> simp [Value.map?, properties]
    rw [declaredFrom, List.mem_append, first, ih]
    constructor
    · rintro (⟨inner, rfl, here⟩ | ⟨k', inner, later, here⟩)
      · exact ⟨k, inner, List.mem_cons_self, here⟩
      · exact ⟨k', inner, List.mem_cons_of_mem _ later, here⟩
    · rintro ⟨k', inner, inside, here⟩
      rcases List.mem_cons.mp inside with same | later
      · obtain ⟨rfl, rfl⟩ := Prod.mk.inj same
        exact .inl ⟨inner, rfl, here⟩
      · exact .inr ⟨k', inner, later, here⟩

theorem mem_declaredIn {node k v : Value} : (k, v) ∈ declaredIn node ↔
    ∃ es props, node = .map es ∧ Entries.field? es "properties" = some (.map props) ∧
      (k, v) ∈ props := by
  constructor
  · intro inside
    cases node with
    | map es =>
      rw [declaredIn] at inside
      cases found : Entries.field? es "properties" with
      | none =>
        rw [found] at inside
        cases inside
      | some table =>
        rw [found] at inside
        cases table with
        | map props => exact ⟨es, props, rfl, found, inside⟩
        | _ => cases inside
    | _ => cases inside
  · rintro ⟨es, props, rfl, found, inside⟩
    rw [declaredIn, found]
    exact inside

theorem sizeOf_of_mem_declaredIn {node k v : Value} (inside : (k, v) ∈ declaredIn node) :
    sizeOf v < sizeOf node := by
  obtain ⟨es, props, rfl, found, inside⟩ := mem_declaredIn.mp inside
  obtain ⟨_, table, _⟩ := Entries.mem_of_get? found
  have outer := Value.sizeOf_lt_of_mem_parts (Value.mem_parts_map table).2
  have inner := Value.sizeOf_lt_of_mem_parts (Value.mem_parts_map inside).2
  exact inner.trans outer

theorem way_of_mem {node : Value} {path : List String} {p : List String × Entries}
    (inside : p ∈ properties path node) :
    ∃ keys, Way node keys p.2 ∧ p.1 = path ++ keys.map Value.plain := by
  rw [properties_eq] at inside
  obtain ⟨k, inner, there, rfl | below⟩ := mem_declaredFrom.mp inside
  · exact ⟨[k], .last there, rfl⟩
  · obtain ⟨keys, way, told⟩ := way_of_mem below
    refine ⟨k :: keys, .further there way, ?_⟩
    rw [told, List.append_assoc]
    rfl
termination_by sizeOf node
decreasing_by exact sizeOf_of_mem_declaredIn there

theorem mem_of_way {node : Value} {keys : List Value} {prop : Entries} (way : Way node keys prop)
    (path : List String) : (path ++ keys.map Value.plain, prop) ∈ properties path node := by
  induction way generalizing path with
  | last there =>
    rw [properties_eq]
    exact mem_declaredFrom.mpr ⟨_, _, there, .inl rfl⟩
  | @further _ k _ _ _ there _ ih =>
    rw [properties_eq]
    refine mem_declaredFrom.mpr ⟨_, _, there, .inr ?_⟩
    simpa using ih (path ++ [k.plain])

/-- The walk goes along the ways, and tells each by the texts of its keys. -/
theorem mem_properties_iff {node : Value} {path : List String} {prop : Entries} :
    (path, prop) ∈ properties [] node ↔
      ∃ keys, Way node keys prop ∧ path = keys.map Value.plain := by
  constructor
  · intro inside
    obtain ⟨keys, way, told⟩ := way_of_mem inside
    exact ⟨keys, way, told⟩
  · rintro ⟨keys, way, rfl⟩
    exact mem_of_way way []

/-! ### Looking up -/

/-- The properties of a schema are declared under different keys, and so are those of each of
its properties. -/
def Orderly (node : Value) : Prop :=
  ((declaredIn node).Pairwise fun e later => ¬e.1.same later.1) ∧
    ∀ p ∈ properties [] node, (declaredIn (.map p.2)).Pairwise fun e later => ¬e.1.same later.1

instance (node : Value) : Decidable (Orderly node) := inferInstanceAs (Decidable (_ ∧ _))

theorem Orderly.below {node k : Value} {inner : Entries} (orderly : Orderly node)
    (there : (k, .map inner) ∈ declaredIn node) : Orderly (.map inner) := by
  refine ⟨orderly.2 _ (mem_of_way (.last there) []), fun p inside => ?_⟩
  obtain ⟨keys, way, _⟩ := way_of_mem inside
  exact orderly.2 ((k :: keys).map Value.plain, p.2) (mem_of_way (.further there way) [])

/-- Among different keys, what stands under a text is found under it. -/
theorem field?_eq_some_iff {props : Entries}
    (apart : props.Pairwise fun e later => ¬e.1.same later.1) {name : String} {v : Value} :
    Entries.field? props name = some v ↔ (.str name, v) ∈ props := by
  constructor
  · intro found
    obtain ⟨k, inside, same⟩ := Entries.mem_of_get? found
    obtain rfl := (Value.same_str k name).mp same
    exact inside
  · intro inside
    induction props with
    | nil => cases inside
    | cons e props ih =>
      obtain ⟨first, others⟩ := List.pairwise_cons.mp apart
      rw [Entries.field?, Entries.get?_cons]
      rcases List.mem_cons.mp inside with rfl | later
      · rw [if_pos ((Value.same_str _ name).mpr rfl)]
      · rw [if_neg (first _ later)]
        exact ih others later

theorem property?_eq (node : Value) (name : String) :
    property? node name = Entries.field? (declaredIn node) name := by
  cases node with
  | map es =>
    rw [property?, declaredIn]
    cases Entries.field? es "properties" with
    | none => rfl
    | some table => cases table <;> rfl
  | _ => rfl

/-- Segments lead to a property just when their keys, as texts, are a way to it. -/
theorem propertyAt_eq_some_iff {node : Value} (orderly : Orderly node) {segments : List Segment}
    (some' : segments ≠ []) {prop : Entries} :
    propertyAt node segments = some (.map prop) ↔
      Way node (segments.map fun s => .str s.key) prop := by
  induction segments generalizing node with
  | nil => exact absurd rfl some'
  | cons s segments ih =>
    rw [propertyAt, Option.bind_eq_some_iff]
    simp only [property?_eq, field?_eq_some_iff orderly.1]
    cases segments with
    | nil =>
      constructor
      · rintro ⟨v, there, same⟩
        obtain rfl := Option.some.inj same
        exact .last there
      · intro way
        cases way with
        | last there => exact ⟨_, there, rfl⟩
        | further _ way => exact absurd rfl way.ne_nil
    | cons t segments =>
      constructor
      · rintro ⟨v, there, found⟩
        cases v with
        | map inner => exact .further there ((ih (orderly.below there) (by simp)).mp found)
        | _ => cases found
      · intro way
        cases way with
        | further there way => exact ⟨_, there, (ih (orderly.below there) (by simp)).mpr way⟩

/-! ### The path as text -/

variable {s : Schema}

/-- A text finds a property just when it is read as segments with keys that lead there. -/
theorem propertySchema_eq_some_iff (orderly : Orderly s.definition) {path : String}
    {prop : Entries} : s.propertySchema path = .ok (some prop) ↔
      ∃ segments, Path.parse path = .ok segments ∧
        Way s.definition (segments.map fun s => .str s.key) prop := by
  have mapping (v : Option Value) : v.bind Value.map? = some prop ↔ v = some (.map prop) := by
    rcases v with _ | v
    · simp
    · cases v <;> simp [Value.map?]
  constructor
  · intro found
    obtain ⟨segments, read, found⟩ := bind_eq_ok.mp found
    have some' := (Path.parse_eq_ok_iff.mp read).1
    have there := (mapping _).mp (Except.ok.inj found)
    exact ⟨segments, read, (propertyAt_eq_some_iff orderly some').mp there⟩
  · rintro ⟨segments, read, way⟩
    have some' := (Path.parse_eq_ok_iff.mp read).1
    have there := (propertyAt_eq_some_iff orderly some').mpr way
    rw [propertySchema, read]
    exact congrArg Except.ok ((mapping _).mpr there)

theorem propertySchema_dotted (orderly : Orderly s.definition) {names : List String}
    (told : Told names) {prop : Entries} (way : Way s.definition (names.map .str) prop) :
    s.propertySchema (dotted names) = .ok (some prop) := by
  refine (propertySchema_eq_some_iff orderly).mpr ⟨_, told.parse, ?_⟩
  rw [List.map_map]
  exact way

/-- What a property says about its items. -/
def itemsOf (prop : Entries) : Entries := ((Entries.field? prop "items").bind Value.map?).getD []

theorem usableTarget?_eq {names : List String} (nonempty : dotted names ≠ "") {prop : Entries}
    (first : (properties [] s.definition).find? (fun p => isCollection p.2) = some (names, prop)) :
    s.usableTarget? = some (dotted names) := by
  simp [usableTarget?, target?, targetPath?, first, nonempty]

/-- With a collection the rules are those for the items of the property that its path finds. -/
theorem itemSchema_eq {target : String} (usable : s.usableTarget? = some target)
    {prop : Entries} (found : s.propertySchema target = .ok (some prop)) :
    s.itemSchema = .ok (some (itemsOf prop)) := by
  simp only [itemSchema, usable, found]
  rfl

theorem rules_eq {target : String} (usable : s.usableTarget? = some target) {items : Entries}
    (asked : s.itemSchema = .ok (some items)) :
    s.rules = (do return ⟨← rulesOf [] (.map items), target ++ "[]"⟩ : Outcome RuleSet) := by
  simp only [rules, usable, asked]
  rfl

/-- Where the path of the collection finds nothing, there are no rules. -/
theorem rules_of_lost {target : String} (usable : s.usableTarget? = some target)
    (lost : s.propertySchema target = .ok none) :
    s.itemSchema = .ok (some []) ∧ s.rules = .ok ⟨[], target ++ "[]"⟩ := by
  have asked : s.itemSchema = .ok (some []) := by
    simp only [itemSchema, usable, lost]
    rfl
  exact ⟨asked, rules_eq usable asked⟩

/-- The properties of a schema are those at the ends of its ways, each found by walking under
the texts of the keys. A text finds a property just when it is read as segments with keys, as
texts, that lead to it. So the path of a property leads back to it if its keys are texts which
the path tells; and if the first property that is marked as the collection is such a one, the
schema of documents is that of its own items, and their rules are made of it. -/
theorem properties_lead_back (orderly : Orderly s.definition) :
    (∀ names prop, (names, prop) ∈ properties [] s.definition ↔
      ∃ keys, Way s.definition keys prop ∧ names = keys.map Value.plain) ∧
    (∀ path prop, s.propertySchema path = .ok (some prop) ↔
      ∃ segments, Path.parse path = .ok segments ∧
        Way s.definition (segments.map fun s => .str s.key) prop) ∧
    (∀ names prop, Way s.definition (names.map .str) prop → Told names →
      s.propertySchema (dotted names) = .ok (some prop)) ∧
    ∀ names prop,
      (properties [] s.definition).find? (fun p => isCollection p.2) = some (names, prop) →
      Way s.definition (names.map .str) prop → Told names →
        s.usableTarget? = some (dotted names) ∧ s.itemSchema = .ok (some (itemsOf prop)) ∧
        s.rules =
          (do return ⟨← rulesOf [] (.map (itemsOf prop)), dotted names ++ "[]"⟩ :
            Outcome RuleSet) := by
  refine ⟨fun _ _ => mem_properties_iff, fun _ _ => propertySchema_eq_some_iff orderly,
    fun _ _ way told => propertySchema_dotted orderly told way,
    fun names prop first way told => ?_⟩
  have usable := usableTarget?_eq told.dotted_ne_empty first
  have asked := itemSchema_eq usable (propertySchema_dotted orderly told way)
  exact ⟨usable, asked, rules_eq usable asked⟩

/-- Poems with titles are gathered in a collection. -/
def poems : Entries :=
  [(.str "x-frontmatter-part", .bool true),
   (.str "items", .record
    [("required", .list [.str "title"]),
     ("properties", .record [("title", .record [("type", .str "string")])])])]

def contents : Entries := [(.str "properties", .record [("all poems", .map poems)])]

/-- The poems are among the contents of an anthology. -/
def anthology : Schema where
  definition := .record [("properties", .record [("contents", .map contents)])]

theorem properties_lead_back_anthology :
    Orderly anthology.definition ∧
    Way anthology.definition (["contents", "all poems"].map .str) poems ∧
    Told ["contents", "all poems"] ∧
    (properties [] anthology.definition).find? (fun p => isCollection p.2) =
      some (["contents", "all poems"], poems) ∧
    anthology.propertySchema "contents.all poems" = .ok (some poems) ∧
    anthology.itemSchema = .ok (some (itemsOf poems)) ∧
    ∃ set, anthology.rules = .ok set ∧ set.violations (.map []) = .ok [.missing "title"] := by
  have orderly : Orderly anthology.definition := by decide +kernel
  have told : Told ["contents", "all poems"] := by decide +kernel
  have first : (properties [] anthology.definition).find? (fun p => isCollection p.2) =
      some (["contents", "all poems"], poems) := by with_unfolding_all rfl
  obtain ⟨_, _, back, collection⟩ := properties_lead_back orderly
  have outer : declaredIn anthology.definition = [(.str "contents", .map contents)] := by
    with_unfolding_all rfl
  have inner : declaredIn (.map contents) = [(.str "all poems", .map poems)] := by
    with_unfolding_all rfl
  have way : Way anthology.definition (["contents", "all poems"].map .str) poems :=
    .further (outer ▸ List.mem_cons_self) (.last (inner ▸ List.mem_cons_self))
  obtain ⟨_, asked, rules⟩ := collection _ _ first way told
  have spelled : dotted ["contents", "all poems"] = "contents.all poems" := by decide +kernel
  refine ⟨orderly, way, told, first, spelled ▸ back _ _ way told, asked, ?_⟩
  with_unfolding_all exact ⟨_, rules, rfl⟩

/-- Gathers the poems under a key. -/
def gathering (key : Value) : Entries := [(.str "properties", .map [(key, .map poems)])]

/-- The poems under a key are lost in a schema: the path of their collection does not lead back
to it, and documents have no rules. -/
structure Lost (key : Value) (s : Schema) : Prop where
  made : ofEntries noFiles (gathering key) none = .ok s
  walked : properties [] s.definition = [([key.plain], poems)]
  lost : s.propertySchema key.plain = .ok none
  asked : s.itemSchema = .ok (some [])
  rules : s.rules = .ok ⟨[], key.plain ++ "[]"⟩

theorem Lost.of_lookup {key : Value} (made : ofEntries noFiles (gathering key) none = .ok s)
    (walked : properties [] s.definition = [([key.plain], poems)]) (nonempty : key.plain ≠ "")
    (lost : s.propertySchema key.plain = .ok none) : Lost key s := by
  have first : (properties [] s.definition).find? (fun p => isCollection p.2) =
      some ([key.plain], poems) := by
    rw [walked]
    with_unfolding_all rfl
  have usable : s.usableTarget? = some key.plain :=
    usableTarget?_eq (show dotted [key.plain] ≠ "" from nonempty) first
  obtain ⟨asked, rules⟩ := rules_of_lost usable lost
  exact ⟨made, walked, lost, asked, rules⟩

/-- The path of a collection does not lead back to it if its key is no text, or is a text that
the path does not tell. All documents pass then, also those that the items of the collection do
not admit. -/
theorem properties_led_astray :
    (∃ s, Lost (.str "all.poems") s) ∧ (∃ s, Lost (.str "poems[]") s) ∧
      (∃ s, Lost (.str " poems") s) ∧ (∃ s, Lost (.int 5) s) ∧
      ∃ rules, rulesOf [] (.map (itemsOf poems)) = .ok rules ∧ rules ≠ [] := by
  have rules : ∃ rules, rulesOf [] (.map (itemsOf poems)) = .ok rules ∧ rules ≠ [] := by
    with_unfolding_all exact ⟨_, rfl, List.cons_ne_nil _ _⟩
  refine ⟨⟨⟨.map (gathering (.str "all.poems")), none⟩, .of_lookup ?_ ?_ (by decide) ?_⟩,
    ⟨⟨.map (gathering (.str "poems[]")), none⟩, .of_lookup ?_ ?_ (by decide) ?_⟩,
    ⟨⟨.map (gathering (.str " poems")), none⟩, .of_lookup ?_ ?_ (by decide) ?_⟩,
    ⟨⟨.map (gathering (.int 5)), none⟩, .of_lookup ?_ ?_ (by decide) ?_⟩, rules⟩
  all_goals with_unfolding_all rfl

end Quire.Schema
