import Quire.Proofs.Contributions

/-! Collections of documents that are laid end to end. A document that holds a list at the
place of the collection gives the mappings in its list and is no element itself, whatever
other documents there are, as long as one of them all gives something. Where none does the
documents themselves are taken, so that two runs joined are not always the two collections
joined; it is told here when they are. -/

namespace Quire.Aggregation

variable {s : Schema} {target : String} {metadata first second : List Entries} {es : Entries}
  {elements : List Value}

/-! ### What metadata offers -/

theorem contributed_of_list {xs : List Value}
    (there : Path.get (.map es) target = .ok (some (.list xs))) :
    contributed target es = xs.filter fun x => x.kind = .map := by
  simp only [contributed, there]

theorem contributed_of_other
    (other : ∀ xs, Path.get (.map es) target ≠ .ok (some (.list xs))) :
    contributed target es = [.map es] := by
  unfold contributed
  split
  · next xs there => exact absurd there (other xs)
  · rfl

theorem contribution_of_get {there : Option Value}
    (got : Path.get (.map es) target = .ok there) :
    contribution target (.map es) = .ok (contributed target es) := by
  simp only [contribution, contributed, got]
  cases there with
  | none => rfl
  | some v => cases v <;> rfl

theorem dropped_of_get {there : Option Value} (got : Path.get (.map es) target = .ok there) :
    ∃ count, dropped target (.map es) = .ok count := by
  simp only [dropped, got]
  cases there with
  | none => exact ⟨_, rfl⟩
  | some v => cases v <;> exact ⟨_, rfl⟩

/-- Whether some of the metadata contributes anything. -/
def Yields (target : String) (metadata : List Entries) : Prop :=
  ∃ es ∈ metadata, contributed target es ≠ []

theorem yields_append :
    Yields target (first ++ second) ↔ Yields target first ∨ Yields target second := by
  simp only [Yields, List.mem_append, or_and_right, exists_or]

theorem not_yields_iff :
    ¬Yields target metadata ↔ metadata.flatMap (contributed target) = [] := by
  simp [Yields, List.flatMap_eq_nil_iff]

/-- The place of the collection can be looked at in all of the metadata. -/
def Readable (target : String) (metadata : List Entries) : Prop :=
  ∀ es ∈ metadata, ∃ there, Path.get (.map es) target = .ok there

theorem readable_append :
    Readable target (first ++ second) ↔ Readable target first ∧ Readable target second := by
  simp only [Readable, List.mem_append, or_imp, forall_and]

theorem readable_of_plainKeys {ls : List String} (reads : Path.plainKeys target = .ok ls)
    (metadata : List Entries) : Readable target metadata :=
  fun es _ => ⟨_, Path.get_of_plainKeys reads (.map es)⟩

/-! ### The elements of metadata -/

theorem contributions_readable (readable : Readable target metadata) :
    (metadata.map Value.map).mapM (contribution target) =
      .ok (metadata.map (contributed target)) := by
  rw [List.mapM_map]
  refine mapM_eq_ok fun es inside => ?_
  obtain ⟨there, got⟩ := readable es inside
  exact contribution_of_get got

theorem dropped_readable (readable : Readable target metadata) :
    ∃ counts, (metadata.map Value.map).mapM (dropped target) = .ok counts := by
  cases failed : (metadata.map Value.map).mapM (dropped target) with
  | ok counts => exact ⟨counts, rfl⟩
  | error e =>
    obtain ⟨d, here, wrong⟩ := mapM_error failed
    obtain ⟨es, inside, rfl⟩ := List.mem_map.mp here
    obtain ⟨there, got⟩ := readable es inside
    obtain ⟨count, right⟩ := dropped_of_get got
    simp [right] at wrong

theorem extract_readable (collects : s.usableTarget? = some target)
    (readable : Readable target metadata) :
    ∃ elements, (extract s (metadata.map .map)).result = .ok elements := by
  obtain ⟨counts, counted⟩ := dropped_readable readable
  have together : contributions target (metadata.map Value.map) =
      .ok (metadata.map (contributed target)).flatten := by
    rw [contributions, contributions_readable readable]
    rfl
  simp only [extract, collects, together, counted]
  split <;> exact ⟨_, rfl⟩

theorem readable_of_extract (collects : s.usableTarget? = some target)
    (made : (extract s (metadata.map .map)).result = .ok elements) :
    Readable target metadata := by
  obtain ⟨lists, each, _⟩ := extract_eq_ok collects made
  intro es inside
  obtain ⟨list, _, one⟩ := exists_of_mapM each (List.mem_map_of_mem inside)
  obtain ⟨there, got, _⟩ := bind_eq_ok.mp one
  exact ⟨there, got⟩

/-- The elements are what the metadata contributes, one after the other, or where that is
nothing the metadata itself. -/
theorem elements_eq (collects : s.usableTarget? = some target)
    (made : (extract s (metadata.map .map)).result = .ok elements) :
    elements = if (metadata.flatMap (contributed target)).isEmpty then metadata.map .map
      else metadata.flatMap (contributed target) := by
  have readable := readable_of_extract collects made
  obtain ⟨lists, each, rfl⟩ := extract_eq_ok collects made
  rw [contributions_readable readable] at each
  rw [← Except.ok.inj each, List.flatMap_def]

theorem elements_of_yields (collects : s.usableTarget? = some target)
    (made : (extract s (metadata.map .map)).result = .ok elements)
    (yields : Yields target metadata) : elements = metadata.flatMap (contributed target) := by
  rw [elements_eq collects made, if_neg]
  rw [List.isEmpty_iff, ← not_yields_iff]
  exact not_not_intro yields

theorem elements_of_not_yields (collects : s.usableTarget? = some target)
    (made : (extract s (metadata.map .map)).result = .ok elements)
    (none : ¬Yields target metadata) : elements = metadata.map .map := by
  rw [elements_eq collects made, if_pos]
  rw [List.isEmpty_iff, ← not_yields_iff]
  exact none

/-! ### Metadata laid end to end -/

/-- Two collections of which both have something to offer, or neither, are laid end to end. -/
theorem elements_append (collects : s.usableTarget? = some target) {us vs joint : List Value}
    (left : (extract s (first.map .map)).result = .ok us)
    (right : (extract s (second.map .map)).result = .ok vs)
    (whole : (extract s ((first ++ second).map .map)).result = .ok joint) :
    joint = us ++ vs ↔
      (Yields target first ↔ Yields target second) ∨ first = [] ∨ second = [] := by
  by_cases one : Yields target first <;> by_cases two : Yields target second
  · have both := elements_of_yields collects whole (yields_append.mpr (.inl one))
    rw [both, elements_of_yields collects left one, elements_of_yields collects right two]
    simp [one, two]
  · have both := elements_of_yields collects whole (yields_append.mpr (.inl one))
    rw [both, elements_of_yields collects left one, elements_of_not_yields collects right two]
    have some : first ≠ [] := by
      rintro rfl
      simp [Yields] at one
    simp [one, two, some, not_yields_iff.mp two]
  · have both := elements_of_yields collects whole (yields_append.mpr (.inr two))
    rw [both, elements_of_not_yields collects left one, elements_of_yields collects right two]
    have some : second ≠ [] := by
      rintro rfl
      simp [Yields] at two
    simp [one, two, some, not_yields_iff.mp one]
  · have neither : ¬Yields target (first ++ second) := by
      simp [yields_append, one, two]
    rw [elements_of_not_yields collects whole neither, elements_of_not_yields collects left one,
      elements_of_not_yields collects right two]
    simp [one, two]

/-- With a collection, metadata has elements just where its place can be looked at, which is
everywhere when it is a plain path. A list there gives the mappings in it, any other metadata
itself. The elements are what all of it gives, one after the other, as long as that is anything,
and all of the metadata otherwise. So two lists of metadata laid end to end give the elements of
the one and then those of the other, unless just one of them gives something and the other is
not empty. -/
theorem extract_joins (collects : s.usableTarget? = some target) :
    (∀ es xs, Path.get (.map es) target = .ok (some (.list xs)) →
      contributed target es = xs.filter fun x => x.kind = .map) ∧
    (∀ es, (∀ xs, Path.get (.map es) target ≠ .ok (some (.list xs))) →
      contributed target es = [.map es]) ∧
    (∀ ls, Path.plainKeys target = .ok ls → ∀ metadata, Readable target metadata) ∧
    (∀ metadata : List Entries,
      ((∃ elements, (extract s (metadata.map .map)).result = .ok elements) ↔
        Readable target metadata) ∧
      ∀ elements, (extract s (metadata.map .map)).result = .ok elements →
        (Yields target metadata → elements = metadata.flatMap (contributed target)) ∧
        (¬Yields target metadata → elements = metadata.map .map)) ∧
    ∀ (first second : List Entries) (us vs : List Value),
      (extract s (first.map .map)).result = .ok us →
      (extract s (second.map .map)).result = .ok vs →
      ∃ joint, (extract s ((first ++ second).map .map)).result = .ok joint ∧
        (joint = us ++ vs ↔
          (Yields target first ↔ Yields target second) ∨ first = [] ∨ second = []) := by
  refine ⟨fun es xs => contributed_of_list, fun es => contributed_of_other,
    fun ls reads => readable_of_plainKeys reads, fun metadata => ⟨?_, fun elements made => ?_⟩, ?_⟩
  · exact ⟨fun ⟨_, made⟩ => readable_of_extract collects made, extract_readable collects⟩
  · exact ⟨elements_of_yields collects made, elements_of_not_yields collects made⟩
  · intro first second us vs left right
    have readable := readable_append.mpr
      ⟨readable_of_extract collects left, readable_of_extract collects right⟩
    obtain ⟨joint, whole⟩ := extract_readable collects readable
    exact ⟨joint, whole, elements_append collects left right whole⟩

/-- Metadata with a note in a list beside a number, and metadata that is a note. -/
def binder : Entries := [(.str "notes", .list [.record [("title", .str "x")], .int 5])]

def leaflet : Entries := [(.str "title", .str "y")]

theorem extract_joins_notes :
    Pipeline.notes.usableTarget? = some "notes" ∧
    (extract Pipeline.notes ([binder].map .map)).result = .ok [.record [("title", .str "x")]] ∧
    (extract Pipeline.notes ([leaflet].map .map)).result = .ok [.record [("title", .str "y")]] ∧
    (extract Pipeline.notes (([binder] ++ [leaflet]).map .map)).result =
      .ok ([.record [("title", .str "x")]] ++ [.record [("title", .str "y")]]) := by
  obtain ⟨lists, others, _, _, joins⟩ := extract_joins Pipeline.notes_collects
  have left : (extract Pipeline.notes ([binder].map .map)).result =
      .ok [.record [("title", .str "x")]] := by
    with_unfolding_all rfl
  have right : (extract Pipeline.notes ([leaflet].map .map)).result =
      .ok [.record [("title", .str "y")]] := by
    with_unfolding_all rfl
  have list : Path.get (.map binder) "notes" =
      .ok (some (.list [.record [("title", .str "x")], .int 5])) := by
    with_unfolding_all rfl
  have none : Path.get (.map leaflet) "notes" = .ok none := by
    with_unfolding_all rfl
  have offers : Yields "notes" [binder] := by
    refine ⟨_, List.mem_singleton_self _, ?_⟩
    rw [lists _ _ list]
    exact List.ne_nil_of_mem (List.mem_filter.mpr ⟨List.mem_cons_self, rfl⟩)
  have offers' : Yields "notes" [leaflet] := by
    refine ⟨_, List.mem_singleton_self _, ?_⟩
    rw [others _ (by simp [none])]
    exact List.cons_ne_nil _ _
  obtain ⟨joint, whole, same⟩ := joins _ _ _ _ left right
  rw [same.mpr (.inl ⟨fun _ => offers', fun _ => offers⟩)] at whole
  exact ⟨Pipeline.notes_collects, left, right, whole⟩

/-- A document that holds an empty list is an element itself when there is no other, and is none
when there is. -/
theorem extract_empty_list :
    Pipeline.notes.usableTarget? = some "notes" ∧
    Path.get (.map [(.str "notes", .list [])]) "notes" = .ok (some (.list [])) ∧
    (extract Pipeline.notes [.map [(.str "notes", .list [])]]).result =
      .ok [.map [(.str "notes", .list [])]] ∧
    (extract Pipeline.notes [.map leaflet]).result = .ok [.map leaflet] ∧
    (extract Pipeline.notes ([.map [(.str "notes", .list [])]] ++ [.map leaflet])).result =
      .ok [.map leaflet] ∧
    [Value.map leaflet] ≠ [.map [(.str "notes", .list [])]] ++ [.map leaflet] := by
  refine ⟨Pipeline.notes_collects, ?_, ?_, ?_, ?_, by simp⟩
  all_goals with_unfolding_all rfl

end Quire.Aggregation
