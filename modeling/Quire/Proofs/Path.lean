import Quire.Proofs.Segments

/-! Dot paths that are put together from names. Where each name can be spelled in a
path, the path reads back as those names, and leads where the names lead one by one. -/

namespace Quire

/-- A name that a dot path can spell. -/
structure PlainName (name : String) : Prop where
  nonempty : name ≠ ""
  undotted : '.' ∉ name.toList
  unopened : '[' ∉ name.toList
  unclosed : ']' ∉ name.toList
  trimmed : Text.strip name = name

instance (name : String) : Decidable (PlainName name) :=
  decidable_of_iff (name ≠ "" ∧ '.' ∉ name.toList ∧ '[' ∉ name.toList ∧ ']' ∉ name.toList ∧
      Text.strip name = name)
    ⟨fun ⟨a, b, c, d, e⟩ => ⟨a, b, c, d, e⟩, fun ⟨a, b, c, d, e⟩ => ⟨a, b, c, d, e⟩⟩

namespace PlainName

variable {name : String}

theorem toList_ne_nil (plain : PlainName name) : name.toList ≠ [] := by
  simpa using plain.nonempty

theorem stripChars_eq (plain : PlainName name) :
    Text.stripChars name.toList = name.toList := Text.stripChars_of_strip plain.trimmed

end PlainName

namespace Schema

theorem toList_dotted (names : List String) :
    (dotted names).toList = ['.'].intercalate (names.map String.toList) :=
  String.toList_intercalate

theorem toList_dotted_cons (name other : String) (names : List String) :
    (dotted (name :: other :: names)).toList =
      name.toList ++ '.' :: (dotted (other :: names)).toList := by
  simp [toList_dotted, List.intercalate_cons_cons]

theorem toList_dotted_concat {names : List String} (some : names ≠ []) (name : String) :
    (dotted (names ++ [name])).toList = (dotted names).toList ++ '.' :: name.toList := by
  induction names with
  | nil => exact absurd rfl some
  | cons first names ih =>
    cases names with
    | nil => simp [toList_dotted, List.intercalate_cons_cons]
    | cons second names =>
      rw [List.cons_append, List.cons_append, toList_dotted_cons, toList_dotted_cons,
        ← List.cons_append, ih (List.cons_ne_nil _ _), List.append_assoc, List.cons_append]

variable {names : List String}

theorem stripChars_dotted (plain : ∀ name ∈ names, PlainName name) (some : names ≠ []) :
    Text.stripChars (dotted names).toList = (dotted names).toList ∧
      (dotted names).toList ≠ [] := by
  induction names with
  | nil => exact absurd rfl some
  | cons name names ih =>
    have this := plain name List.mem_cons_self
    cases names with
    | nil => simpa [toList_dotted] using ⟨this.stripChars_eq, this.nonempty⟩
    | cons other names =>
      obtain ⟨stripped, nonempty⟩ :=
        ih (fun n h => plain n (List.mem_cons_of_mem _ h)) (List.cons_ne_nil _ _)
      rw [toList_dotted_cons]
      exact ⟨Text.stripChars_append this.stripChars_eq this.toList_ne_nil stripped nonempty '.',
        by simp⟩

/-- Names that a path tells: it can spell each of them, and has no blanks at its ends. -/
structure Told (names : List String) : Prop where
  some : names ≠ []
  spelled : ∀ name ∈ names, Segment.Spelled ⟨name, false⟩
  trimmed : Text.strip (dotted names) = dotted names

instance (names : List String) : Decidable (Told names) :=
  decidable_of_iff (names ≠ [] ∧ (∀ name ∈ names, Segment.Spelled ⟨name, false⟩) ∧
      Text.strip (dotted names) = dotted names)
    ⟨fun ⟨a, b, c⟩ => ⟨a, b, c⟩, fun ⟨a, b, c⟩ => ⟨a, b, c⟩⟩

theorem render_names (names : List String) :
    Path.render (names.map fun name => ⟨name, false⟩) = dotted names := by
  simp [Path.render, dotted, Segment.render, Function.comp_def]

theorem Told.parse (told : Told names) :
    Path.parse (dotted names) = .ok (names.map fun name => ⟨name, false⟩) := by
  rw [← render_names]
  refine Path.parse_render (by simpa using told.some) (fun s inside => ?_) ?_
  · obtain ⟨name, there, rfl⟩ := List.mem_map.mp inside
    exact told.spelled name there
  · rw [render_names, told.trimmed]

theorem Told.dotted_ne_empty (told : Told names) : dotted names ≠ "" := by
  intro empty
  have read := told.parse
  rw [empty] at read
  cases read

theorem Told.of_plain (plain : ∀ name ∈ names, PlainName name) (some : names ≠ []) :
    Told names where
  some := some
  spelled name inside :=
    have this := plain name inside
    ⟨this.nonempty, this.undotted, this.unopened, this.unclosed⟩
  trimmed := by rw [Text.strip, (stripChars_dotted plain some).1, String.ofList_toList]

theorem dotted_ne_empty (plain : ∀ name ∈ names, PlainName name) (some : names ≠ []) :
    dotted names ≠ "" :=
  (Told.of_plain plain some).dotted_ne_empty

/-- A path of names reads back as those names. -/
theorem parse_dotted (plain : ∀ name ∈ names, PlainName name) (some : names ≠ []) :
    Path.parse (dotted names) = .ok (names.map fun name => ⟨name, false⟩) :=
  (Told.of_plain plain some).parse

theorem lookup_names (path : String) (names : List String) (data : Value) :
    Path.lookup path data (names.map fun name => ⟨name, false⟩) =
      .ok (Pointer.descend names data) := by
  induction names generalizing data with
  | nil => rfl
  | cons name names ih =>
    cases data with
    | map es =>
      simp only [List.map_cons, Path.lookup, Pointer.descend, Bool.false_eq_true, if_false]
      cases Entries.field? es name with
      | none => rfl
      | some v => exact ih v
    | _ => simp [Path.lookup, Pointer.descend]

/-- A path of names leads where the names lead. -/
theorem get_dotted (plain : ∀ name ∈ names, PlainName name) (some : names ≠ []) (data : Value) :
    Path.get data (dotted names) = .ok (Pointer.descend names data) := by
  rw [Path.get, parse_dotted plain some]
  exact lookup_names _ names data

theorem find_dotted (plain : ∀ name ∈ names, PlainName name) (some : names ≠ []) (data : Value) :
    Path.find data (dotted names) = .ok (Value.present (Pointer.descend names data)) := by
  rw [Path.find, get_dotted plain some]
  rfl

theorem descend_concat (names : List String) (name : String) (data : Value) :
    Pointer.descend (names ++ [name]) data =
      (Pointer.descend names data).bind (Pointer.descend [name]) := by
  induction names generalizing data with
  | nil => rfl
  | cons first names ih =>
    cases data with
    | map es =>
      simp only [List.cons_append, Pointer.descend]
      cases Entries.field? es first with
      | none => rfl
      | some v => exact ih v
    | _ => rfl

end Schema

namespace Path

open Schema.Pointer (descend)

/-- Segments that take no list apart are told by their keys. -/
theorem plain_keys {segments : List Segment} (plain : segments.any (·.expand) = false) :
    ((segments.map (·.key)).map fun k => (⟨k, false⟩ : Segment)) = segments := by
  have none : ∀ s ∈ segments, s.expand = false := by simpa using plain
  have back : segments.map ((fun k => (⟨k, false⟩ : Segment)) ∘ Segment.key) =
      segments.map fun s => s := by
    refine List.map_congr_left fun s inside => ?_
    simp [← none s inside]
  rw [List.map_map, back, List.map_id']

/-- A path that names one place is read as its keys. -/
theorem parse_of_plainKeys {p : String} {ks : List String} (reads : plainKeys p = .ok ks) :
    parse p = .ok (ks.map fun k => ⟨k, false⟩) := by
  obtain ⟨segments, parsed, plain⟩ := bind_eq_ok.mp reads
  split at plain
  · cases plain
  · next closed =>
    obtain rfl := Except.ok.inj plain
    rw [parsed, plain_keys (by simpa using closed)]

theorem plainKeys_of_parse {p : String} {ks : List String}
    (parsed : parse p = .ok (ks.map fun k => ⟨k, false⟩)) : plainKeys p = .ok ks := by
  simp [plainKeys, parsed, bind, Except.bind, pure, Except.pure, Function.comp_def]

/-- The keys of a path that names one place, as far as it does. -/
def place (p : String) : List String := (plainKeys p).toOption.getD []

theorem place_eq {p : String} {ks : List String} (reads : plainKeys p = .ok ks) :
    place p = ks := by
  rw [place, reads]
  rfl

theorem plainKeys_ne_nil {p : String} {ks : List String} (reads : plainKeys p = .ok ks) :
    ks ≠ [] := by
  rintro rfl
  exact (parse_eq_ok_iff.mp (parse_of_plainKeys reads)).1 rfl

theorem get_of_plainKeys {p : String} {ks : List String} (reads : plainKeys p = .ok ks)
    (data : Value) : get data p = .ok (descend ks data) := by
  rw [get, parse_of_plainKeys reads]
  exact Schema.lookup_names p ks data

/-- What is wrong with a piece is told with the path, but what is right is not. -/
theorem ofPiece_path {p q : String} {piece : List Char} {s : Segment}
    (right : Segment.ofPiece p piece = .ok s) : Segment.ofPiece q piece = .ok s :=
  Segment.ofPiece_eq_ok_iff.mpr (Segment.ofPiece_eq_ok_iff.mp right)

/-- Blanks at the ends of a path are not part of it. -/
theorem parse_strip {p : String} {segments : List Segment} :
    parse (Text.strip p) = .ok segments ↔ parse p = .ok segments := by
  rw [parse_eq_ok_iff, parse_eq_ok_iff, Text.strip_strip]

theorem plainKeys_strip {p : String} {ks : List String} :
    plainKeys (Text.strip p) = .ok ks ↔ plainKeys p = .ok ks :=
  ⟨fun reads => plainKeys_of_parse (parse_strip.mp (parse_of_plainKeys reads)),
    fun reads => plainKeys_of_parse (parse_strip.mpr (parse_of_plainKeys reads))⟩

theorem ne_blank_of_parse {p : String} {segments : List Segment}
    (reads : parse p = .ok segments) : Text.isAllBlank p = false := by
  unfold parse at reads
  split at reads
  · cases reads
  · next visible => simpa using visible

theorem plainKeys_eq_ok {p : String} {segments : List Segment}
    (reads : parse p = .ok segments) :
    (∃ ks, plainKeys p = .ok ks) ↔ segments.any (·.expand) = false := by
  rw [plainKeys, reads]
  cases h : segments.any (·.expand) <;> simp [h, bind, Except.bind, pure, Except.pure]

theorem set_eq {p : String} {ks : List String} (reads : plainKeys p = .ok ks) (es : Entries)
    (v : Value) : set es p v = .ok (write es ks v) := by
  rw [set, reads]
  rfl

/-! ### Paths put together -/

section Together

variable {p q : String} {segments rest : List Segment}

/-- A path without blanks at its ends is read piece by piece. -/
theorem parse_trimmed (trimmed : Text.stripChars p.toList = p.toList) :
    parse p = .ok segments ↔
      p.toList ≠ [] ∧ (splitChars '.' p.toList).mapM (Segment.ofPiece p) = .ok segments := by
  rw [parse_eq_ok_iff_mapM, trimmed]
  refine ⟨fun read => ⟨fun empty => ?_, read⟩, And.right⟩
  rw [empty] at read
  cases read

/-- Two paths with a dot between them are read one after the other. -/
theorem parse_append_dot (first : parse p = .ok segments)
    (trimmed : Text.stripChars p.toList = p.toList) (second : parse q = .ok rest)
    (trimmed' : Text.stripChars q.toList = q.toList) :
    parse (p ++ "." ++ q) = .ok (segments ++ rest) := by
  obtain ⟨nonempty, pieces⟩ := (parse_trimmed trimmed).mp first
  obtain ⟨nonempty', pieces'⟩ := (parse_trimmed trimmed').mp second
  have text : (p ++ "." ++ q).toList = p.toList ++ '.' :: q.toList := by simp
  refine (parse_trimmed ?_).mpr ⟨?_, ?_⟩
  · rw [text]
    exact Text.stripChars_append trimmed nonempty trimmed' nonempty' '.'
  · simp [text]
  · rw [text, splitChars_append_cons, mapM_append_eq_ok]
    refine ⟨_, _, ?_, ?_, rfl⟩
    · exact mapM_eq_ok_of_imp (fun _ _ _ => ofPiece_path) pieces
    · exact mapM_eq_ok_of_imp (fun _ _ _ => ofPiece_path) pieces'

/-- A piece that takes no list apart does so with brackets after it. -/
theorem ofPiece_append_brackets {piece : List Char} {k : String}
    (plain : Segment.ofPiece p piece = .ok ⟨k, false⟩) :
    Segment.ofPiece q (piece ++ ['[', ']']) = .ok ⟨k, true⟩ := by
  obtain ⟨rfl, key⟩ := Segment.ofPiece_eq_ok_iff.mp plain
  refine Segment.ofPiece_eq_ok_iff.mpr ⟨?_, key⟩
  simp [Segment.toList_render]

end Together

end Path

/-- The parent of a field is reached by the names before its last. -/
theorem FieldRule.parent_eq_dotted {r : FieldRule} {names : List String} {name : String}
    (plain : PlainName name) (path : r.path = Schema.dotted (names ++ [name])) :
    r.parent = Schema.dotted names := by
  have apart : ∀ c ∈ name.toList.reverse, decide (c ≠ '.') := by
    intro c inside
    simpa using ne_of_mem_of_not_mem (List.mem_reverse.mp inside) plain.undotted
  have upTo (rest : List Char) :
      (name.toList.reverse ++ rest).dropWhile (· ≠ '.') = rest.dropWhile (· ≠ '.') :=
    List.dropWhile_append_of_pos apart
  unfold FieldRule.parent
  rw [path]
  cases names with
  | nil =>
    have only : (Schema.dotted ([] ++ [name])).toList.reverse = name.toList.reverse ++ [] := by
      simp [Schema.toList_dotted]
    rw [only, upTo]
    rfl
  | cons first names =>
    have cut : (Schema.dotted (first :: names ++ [name])).toList.reverse =
        name.toList.reverse ++ '.' :: (Schema.dotted (first :: names)).toList.reverse := by
      rw [Schema.toList_dotted_concat (List.cons_ne_nil _ _)]
      simp
    rw [cut, upTo]
    simp

end Quire
