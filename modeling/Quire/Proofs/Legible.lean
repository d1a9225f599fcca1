import Quire.Proofs.Frame
import Quire.Proofs.Schema.Rules

/-! Dot paths that can be read. It is enough that something shows in each piece between the
dots and that there are no brackets: then blanks at the ends do no harm, and neither does
cutting off the last piece. -/

namespace Quire

/-- A piece is a part of the text. -/
theorem mem_of_mem_splitChars {separator c : Char} {cs piece : List Char}
    (inside : piece ∈ splitChars separator cs) (there : c ∈ piece) : c ∈ cs := by
  induction cs generalizing piece with
  | nil =>
    obtain rfl := List.mem_singleton.mp inside
    exact there
  | cons d cs ih =>
    obtain ⟨head, rest, split⟩ := List.exists_cons_of_ne_nil (splitChars_ne_nil separator cs)
    have head' : c ∈ head → c ∈ cs := ih (split ▸ List.mem_cons_self)
    have rest' : piece ∈ rest → c ∈ cs := fun later =>
      ih (split ▸ List.mem_cons_of_mem _ later) there
    simp only [splitChars, split] at inside
    split at inside
    · rcases List.mem_cons.mp inside with rfl | inside
      · cases there
      · rcases List.mem_cons.mp inside with rfl | later
        · exact List.mem_cons_of_mem _ (head' there)
        · exact List.mem_cons_of_mem _ (rest' later)
    · rcases List.mem_cons.mp inside with rfl | later
      · rcases List.mem_cons.mp there with rfl | there
        · exact List.mem_cons_self
        · exact List.mem_cons_of_mem _ (head' there)
      · exact List.mem_cons_of_mem _ (rest' later)

namespace Text

/-- Only blanks are cut off the ends. -/
theorem exists_stripChars (cs : List Char) : ∃ before after,
    cs = before ++ stripChars cs ++ after ∧ (∀ c ∈ before, isBlank c = true) ∧
      ∀ c ∈ after, isBlank c = true := by
  refine ⟨cs.takeWhile isBlank, ((cs.dropWhile isBlank).reverse.takeWhile isBlank).reverse, ?_,
    fun c inside => List.mem_takeWhile_imp inside,
    fun c inside => List.mem_takeWhile_imp (List.mem_reverse.mp inside)⟩
  rw [List.append_assoc, stripChars, trim, ← List.reverse_append, List.takeWhile_append_dropWhile,
    List.reverse_reverse, List.takeWhile_append_dropWhile]

end Text

namespace Path

open Text

/-- Something shows in each piece of a path between the dots, and there are no brackets. -/
structure Legible (path : String) : Prop where
  unopened : '[' ∉ path.toList
  unclosed : ']' ∉ path.toList
  shows : ∀ piece ∈ splitChars '.' path.toList, ∃ c ∈ piece, isBlank c = false

instance (path : String) : Decidable (Legible path) :=
  decidable_of_iff ('[' ∉ path.toList ∧ ']' ∉ path.toList ∧
      ∀ piece ∈ splitChars '.' path.toList, (piece.any fun c => !isBlank c) = true)
    ⟨fun ⟨unopened, unclosed, shows⟩ => ⟨unopened, unclosed, by simpa using shows⟩,
      fun ⟨unopened, unclosed, shows⟩ => ⟨unopened, unclosed, by simpa using shows⟩⟩

variable {path : String}

theorem dot_notMem {cs : List Char} (blank : ∀ c ∈ cs, isBlank c = true) : '.' ∉ cs :=
  fun inside => absurd (blank _ inside) (by decide)

/-- With blanks before the text its pieces are as before, but for blanks. -/
theorem pieces_after {before cs : List Char} (blank : ∀ c ∈ before, isBlank c = true) :
    ∀ piece ∈ splitChars '.' cs, ∃ whole ∈ splitChars '.' (before ++ cs),
      ∀ c ∈ whole, isBlank c = false → c ∈ piece := by
  obtain ⟨front, last, split, joins⟩ := splitChars_append '.' before
  obtain ⟨head, rest, split'⟩ := List.exists_cons_of_ne_nil (splitChars_ne_nil '.' cs)
  rw [splitChars_of_notMem (dot_notMem blank)] at split
  obtain ⟨rfl, rfl⟩ : front = [] ∧ before = last := by
    cases front with
    | nil => exact ⟨rfl, by simpa using split⟩
    | cons piece front => simp at split
  rw [joins split', split']
  intro piece inside
  rcases List.mem_cons.mp inside with rfl | later
  · refine ⟨_, List.mem_cons_self, fun c there shown => ?_⟩
    rcases List.mem_append.mp there with early | there
    · exact absurd (shown.symm.trans (blank c early)) (by decide)
    · exact there
  · exact ⟨piece, List.mem_cons_of_mem _ later, fun c there _ => there⟩

/-- So they are with blanks after it. -/
theorem pieces_before {cs after : List Char} (blank : ∀ c ∈ after, isBlank c = true) :
    ∀ piece ∈ splitChars '.' cs, ∃ whole ∈ splitChars '.' (cs ++ after),
      ∀ c ∈ whole, isBlank c = false → c ∈ piece := by
  obtain ⟨front, last, split, joins⟩ := splitChars_append '.' cs
  rw [joins (splitChars_of_notMem (dot_notMem blank)), split]
  intro piece inside
  rcases List.mem_append.mp inside with early | inside
  · exact ⟨piece, List.mem_append_left _ early, fun c there _ => there⟩
  · obtain rfl := List.mem_singleton.mp inside
    refine ⟨_, List.mem_append_right _ List.mem_cons_self, fun c there shown => ?_⟩
    rcases List.mem_append.mp there with there | late
    · exact there
    · exact absurd (shown.symm.trans (blank c late)) (by decide)

/-- What shows in a piece is not cut off with the blanks at the ends. -/
theorem Legible.stripped (legible : Legible path) :
    ∀ piece ∈ splitChars '.' (stripChars path.toList), piece ≠ [] := by
  obtain ⟨before, after, whole, blank, blank'⟩ := exists_stripChars path.toList
  have shows := legible.shows
  rw [whole, List.append_assoc] at shows
  intro piece inside
  obtain ⟨longer, inside, keeps⟩ := pieces_before blank' piece inside
  obtain ⟨longest, inside, keeps'⟩ := pieces_after blank longer inside
  obtain ⟨c, there, shown⟩ := shows longest inside
  exact List.ne_nil_of_mem (keeps c (keeps' c there shown) shown)

theorem mem_of_mem_stripChars {cs : List Char} {c : Char} (inside : c ∈ stripChars cs) :
    c ∈ cs := by
  obtain ⟨before, after, whole, _, _⟩ := exists_stripChars cs
  rw [whole]
  simp [inside]

/-- A legible path is read piece by piece, and stands for one place. -/
theorem Legible.plainKeys (legible : Legible path) : ∃ ks, plainKeys path = .ok ks := by
  have visible : ¬isAllBlank path := by
    intro blank
    obtain ⟨piece, pieces, split⟩ := List.exists_cons_of_ne_nil (splitChars_ne_nil '.' path.toList)
    have first : piece ∈ splitChars '.' path.toList := split ▸ List.mem_cons_self
    obtain ⟨c, there, shown⟩ := legible.shows piece first
    have blank := List.all_eq_true.mp blank c (mem_of_mem_splitChars first there)
    exact absurd (shown.symm.trans blank) (by decide)
  have each : ∀ piece ∈ splitChars '.' (stripChars path.toList),
      Segment.ofPiece path piece = .ok ⟨String.ofList piece, false⟩ := by
    intro piece inside
    have apart {c : Char} (there : c ∈ piece) : c ∈ path.toList :=
      mem_of_mem_stripChars (mem_of_mem_splitChars inside there)
    have unopened : '[' ∉ piece := fun there => legible.unopened (apart there)
    have unclosed : ']' ∉ piece := fun there => legible.unclosed (apart there)
    simp [Segment.ofPiece, unbracket_of_notMem unclosed, legible.stripped piece inside, unopened,
      unclosed]
  have parsed : parse path = .ok
      (((splitChars '.' (stripChars path.toList)).map String.ofList).map fun k => ⟨k, false⟩) := by
    rw [parse, if_neg visible, mapM_eq_ok each, List.map_map]
    rfl
  exact ⟨_, plainKeys_of_parse parsed⟩

theorem Legible.get (legible : Legible path) (data : Value) :
    ∃ found, get data path = .ok found := by
  obtain ⟨ks, reads⟩ := legible.plainKeys
  exact ⟨_, get_of_plainKeys reads data⟩

end Path

namespace FieldRule

variable {r : FieldRule}

/-- The parent of a field is empty, or its path is that of the field up to the last dot. -/
theorem parent_cases (r : FieldRule) : r.parent = "" ∨
    ∃ last, r.path.toList = r.parent.toList ++ '.' :: last := by
  unfold parent
  have whole := List.takeWhile_append_dropWhile (p := (· ≠ '.')) (l := r.path.toList.reverse)
  cases before : r.path.toList.reverse.dropWhile (· ≠ '.') with
  | nil => exact .inl rfl
  | cons c rest =>
    have dot : c = '.' := by
      have first := List.head?_dropWhile_not (· ≠ '.') r.path.toList.reverse
      rw [before] at first
      simpa using first
    subst dot
    rw [before] at whole
    refine .inr ⟨(r.path.toList.reverse.takeWhile (· ≠ '.')).reverse, ?_⟩
    have back := congrArg List.reverse whole
    rw [List.reverse_reverse, List.reverse_append, List.reverse_cons, List.append_assoc] at back
    simpa using back.symm

theorem legible_parent (legible : Path.Legible r.path) (some : r.parent ≠ "") :
    Path.Legible r.parent := by
  obtain none' | ⟨last, whole⟩ := r.parent_cases
  · exact absurd none' some
  · obtain ⟨unopened, unclosed, shows⟩ := legible
    rw [whole] at unopened unclosed shows
    rw [splitChars_append_cons] at shows
    exact ⟨fun inside => unopened (List.mem_append_left _ inside),
      fun inside => unclosed (List.mem_append_left _ inside),
      fun piece inside => shows piece (List.mem_append_left _ inside)⟩

/-- A rule with a legible path can be applied to anything. -/
theorem violation_legible (legible : Path.Legible r.path) (metadata : Value) :
    ∃ found, r.violation metadata = .ok found := by
  have applies : ∃ b, r.applies metadata = .ok b := by
    unfold applies
    split
    · exact ⟨_, rfl⟩
    · next some =>
      obtain ⟨there, got⟩ := (legible_parent legible some).get metadata
      rw [got]
      cases there with
      | none => exact ⟨_, rfl⟩
      | some v => cases v <;> exact ⟨_, rfl⟩
  obtain ⟨b, applies⟩ := applies
  obtain ⟨there, got⟩ := legible.get metadata
  unfold violation
  rw [applies]
  cases b with
  | false => exact ⟨_, rfl⟩
  | true =>
    change ∃ found, r.check metadata = .ok found
    rw [check, Path.find, got]
    exact ⟨_, rfl⟩

end FieldRule

/-- Rules with legible paths pass a mapping or find something wrong with it. -/
theorem RuleSet.validate_legible {s : RuleSet} (legible : ∀ r ∈ s.rules, Path.Legible r.path)
    (metadata : Entries) (path : Option String) : s.validate (.map metadata) path = .ok () ∨
      ∃ found, s.validate (.map metadata) path = .error (.fault (faultOf found path)) := by
  have each : ∀ rules : List FieldRule, (∀ r ∈ rules, Path.Legible r.path) →
      ∃ found, violations ⟨rules, s.scope⟩ (.map metadata) = .ok found := by
    intro rules legible
    induction rules with
    | nil => exact ⟨[], rfl⟩
    | cons r rules ih =>
      obtain ⟨first, found⟩ :=
        FieldRule.violation_legible (legible r List.mem_cons_self) (.map metadata)
      obtain ⟨rest, found'⟩ := ih fun r' inside => legible r' (List.mem_cons_of_mem r inside)
      exact ⟨_, violations_cons found found'⟩
  obtain ⟨found, finds⟩ := each s.rules legible
  rw [validate_map (s := s) finds]
  split
  · exact .inl rfl
  · exact .inr ⟨found, rfl⟩

end Quire
