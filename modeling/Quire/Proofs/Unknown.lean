import Quire.Proofs.Rendering

/-! Placeholders of which nothing is known: the first key of their path is not in the data. A
path that takes no list apart leads nowhere, and its placeholder stays. A path that does leads
to all that is there, which is an empty list, and that is what its placeholder gives way to. -/

namespace Quire.Template

/-- The first key of a path is not among the data. -/
def Unknown (es : Entries) (path : String) : Prop :=
  ∃ s rest, Path.parse path = .ok (s :: rest) ∧ Entries.field? es s.key = none

/-- The path takes a list apart. -/
def expands (path : List Char) : Bool := path.contains '['

/-! ### Templates without their values -/

/-- An empty list in the place of a path that takes one apart. -/
def Piece.emptied : Piece → List Char
  | .literal c => [c]
  | .hole path => if expands path then ['[', ']'] else (Piece.hole path).render

def emptiedText (s : String) : String := String.ofList ((pieces s).flatMap Piece.emptied)

def emptiedLeaf (s : String) : Value :=
  match pieces s with
  | [.hole path] => if expands path then .list [] else .str s
  | _ => .str (emptiedText s)

mutual

/-- A tree with an empty list in the place of every path that takes one apart. -/
def emptied : Value → Value
  | .map es => .map (emptiedFields es)
  | .list xs => .list (emptiedItems xs)
  | .str s => emptiedLeaf s
  | v => v

def emptiedItems : List Value → List Value
  | [] => []
  | x :: xs => emptied x :: emptiedItems xs

def emptiedFields : List (Value × Value) → List (Value × Value)
  | [] => []
  | (k, v) :: es => (k, emptied v) :: emptiedFields es

end

/-- The pieces of a text put together are the text. -/
theorem render_pieces (s : String) : (pieces s).flatMap Piece.render = s.toList := by
  obtain ⟨l, spread⟩ := Spread.exists_text s.toList
  have whole : pieces s = l.pieces := by
    rw [← l.pieces_text, spread, String.ofList_toList]
  rw [whole, ← spread]
  simp [Spread.pieces, Spread.text, List.flatMap_append, List.flatMap_assoc, List.flatMap_map,
    Piece.render, placeholder]

theorem mem_pieces {s : String} {path : List Char} (inside : .hole path ∈ pieces s) :
    ∃ segments, Nameable segments ∧ path = (Path.render segments).toList := by
  obtain ⟨l, spread⟩ := Spread.exists_text s.toList
  have whole : pieces s = l.pieces := by
    rw [← l.pieces_text, spread, String.ofList_toList]
  rw [whole] at inside
  simp only [Spread.pieces, List.mem_append, List.mem_flatMap, List.mem_map, reduceCtorEq,
    and_false, exists_false, or_false, List.mem_singleton, Piece.hole.injEq, false_or] at inside
  obtain ⟨b, there, rfl⟩ := inside
  exact ⟨b.2, l.nameable b there, rfl⟩

theorem emptiedText_eq_self {s : String} (plain : ∀ p ∈ holes s, expands p.toList = false) :
    emptiedText s = s := by
  have same : (pieces s).flatMap Piece.emptied = (pieces s).flatMap Piece.render := by
    refine List.flatMap_congr fun piece inside => ?_
    cases piece with
    | literal c => rfl
    | hole path =>
      have whole := plain _ (mem_holes inside)
      rw [String.toList_ofList] at whole
      simp [Piece.emptied, whole]
  rw [emptiedText, same, render_pieces, String.ofList_toList]

theorem emptiedLeaf_eq_self {s : String} (plain : ∀ p ∈ holes s, expands p.toList = false) :
    emptiedLeaf s = .str s := by
  unfold emptiedLeaf
  split
  · next path only =>
    have inside : .hole path ∈ pieces s := by simp [only]
    have whole := plain _ (mem_holes inside)
    rw [String.toList_ofList] at whole
    simp [whole]
  · rw [emptiedText_eq_self plain]

mutual

/-- Where no path takes a list apart the tree stays. -/
theorem emptied_eq_self : ∀ v : Value, (∀ p ∈ paths v, expands p.toList = false) → emptied v = v
  | .str s => fun plain => emptiedLeaf_eq_self plain
  | .list xs => fun plain => by rw [emptied, emptiedItems_eq_self xs plain]
  | .map es => fun plain => by rw [emptied, emptiedFields_eq_self es plain]
  | .null | .bool _ | .int _ | .real _ | .date _ | .moment _ | .time _ | .bytes _ | .tuple _
  | .set _ | .cycle _ | .missing _ => fun _ => rfl

theorem emptiedItems_eq_self : ∀ xs : List Value,
    (∀ p ∈ pathsOfItems xs, expands p.toList = false) → emptiedItems xs = xs
  | [] => fun _ => rfl
  | x :: xs => fun plain => by
    have first := emptied_eq_self x fun p inside => plain p (List.mem_append_left _ inside)
    have others := emptiedItems_eq_self xs fun p inside =>
      plain p (List.mem_append_right _ inside)
    rw [emptiedItems, first, others]

theorem emptiedFields_eq_self : ∀ es : List (Value × Value),
    (∀ p ∈ pathsOfFields es, expands p.toList = false) → emptiedFields es = es
  | [] => fun _ => rfl
  | (k, v) :: es => fun plain => by
    have first := emptied_eq_self v fun p inside => plain p (List.mem_append_left _ inside)
    have others := emptiedFields_eq_self es fun p inside =>
      plain p (List.mem_append_right _ inside)
    rw [emptiedFields, first, others]

end

/-! ### Filling with nothing known -/

variable {es : Entries}

/-- Nothing is found where the first key is missing, or the empty list of all that is there. -/
theorem found_unknown {segments : List Segment} (nameable : Nameable segments)
    (unknown : Unknown es (Path.render segments)) : found (.map es) segments =
      if expands (Path.render segments).toList then some (.list []) else none := by
  have opens : expands (Path.render segments).toList = segments.any (·.expand) := by
    rw [Bool.eq_iff_iff, expands, List.contains_iff_mem, open_mem_render nameable.keys]
  obtain ⟨s, rest, parsed, missing⟩ := unknown
  rw [nameable.parse] at parsed
  obtain rfl := Except.ok.inj parsed
  have nowhere (more : List Segment) : Path.reach [] more = [] := by
    induction more with
    | nil => rfl
    | cons t more ih => simpa [Path.reach] using ih
  rw [opens]
  simp [found, Path.collectAt, Path.reach, Path.step, missing, nowhere, Schema.Pointer.descend,
    Value.present]

theorem lookup_unknown {s : String} {path : List Char} (inside : .hole path ∈ pieces s)
    (unknown : Unknown es (String.ofList path)) :
    lookup (.map es) (String.ofList path) =
      .ok (if expands path then some (.list []) else none) := by
  obtain ⟨segments, nameable, rfl⟩ := mem_pieces inside
  rw [String.ofList_toList] at unknown ⊢
  rw [lookup_render nameable, found_unknown nameable unknown]

theorem fillText_unknown {s : String} (unknown : ∀ p ∈ holes s, Unknown es p) :
    fillText (.map es) s = .ok (emptiedText s) := by
  have each : (pieces s).mapM (Piece.fill (.map es)) =
      .ok ((pieces s).map fun p => String.ofList p.emptied) := by
    refine mapM_eq_ok fun piece inside => ?_
    cases piece with
    | literal c => rfl
    | hole path =>
      have missing := lookup_unknown inside (unknown _ (mem_holes inside))
      simp only [Piece.fill, missing, Piece.emptied]
      cases expands path <;> rfl
  rw [fillText, each]
  refine congrArg Except.ok (String.toList_inj.mp ?_)
  simp [emptiedText, String.toList_join, List.flatMap_map]

theorem fillLeaf_unknown {s : String} (unknown : ∀ p ∈ holes s, Unknown es p) :
    fillLeaf (.map es) s = .ok (emptiedLeaf s) := by
  by_cases single : ∃ path, pieces s = [.hole path]
  · obtain ⟨path, only⟩ := single
    have inside : .hole path ∈ pieces s := by simp [only]
    have missing := lookup_unknown inside (unknown _ (mem_holes inside))
    simp only [fillLeaf, emptiedLeaf, only, missing]
    cases expands path <;> rfl
  · -- what leaves only the second branch of either match
    have several : ∀ path, pieces s = [.hole path] → False := fun path only =>
      single ⟨path, only⟩
    have text := fillText_unknown unknown
    simp only [fillLeaf, emptiedLeaf]
    rw [text]
    rfl

mutual

theorem fill_unknown : ∀ v : Value, (∀ p ∈ paths v, Unknown es p) →
    fill (.map es) v = .ok (emptied v)
  | .str s => fun unknown => fillLeaf_unknown unknown
  | .list xs => fun unknown => by rw [fill, fillItems_unknown xs unknown]; rfl
  | .map fs => fun unknown => by rw [fill, fillFields_unknown fs unknown]; rfl
  | .null | .bool _ | .int _ | .real _ | .date _ | .moment _ | .time _ | .bytes _ | .tuple _
  | .set _ | .cycle _ | .missing _ => fun _ => rfl

theorem fillItems_unknown : ∀ xs : List Value, (∀ p ∈ pathsOfItems xs, Unknown es p) →
    fillItems (.map es) xs = .ok (emptiedItems xs)
  | [] => fun _ => rfl
  | x :: xs => fun unknown => by
    have first := fill_unknown x fun p inside => unknown p (List.mem_append_left _ inside)
    have others := fillItems_unknown xs fun p inside => unknown p (List.mem_append_right _ inside)
    rw [fillItems, first, others]
    rfl

theorem fillFields_unknown : ∀ fs : List (Value × Value),
    (∀ p ∈ pathsOfFields fs, Unknown es p) → fillFields (.map es) fs = .ok (emptiedFields fs)
  | [] => fun _ => rfl
  | (k, v) :: fs => fun unknown => by
    have first := fill_unknown v fun p inside => unknown p (List.mem_append_left _ inside)
    have others := fillFields_unknown fs fun p inside =>
      unknown p (List.mem_append_right _ inside)
    rw [fillFields, first, others]
    rfl

end

/-- Where the first key of every path is missing from the data, a text and a tree come back with
an empty list in the place of every path that takes one apart and with all other placeholders
as they are; as they were, then, if no path takes a list apart. -/
theorem render_unknown :
    (∀ (name s : String), (∀ p ∈ holes s, Unknown es p) →
      render ⟨name, "text", .str s⟩ (.map es) = .ok (emptiedText s) ∧
      ((∀ p ∈ holes s, expands p.toList = false) →
        render ⟨name, "text", .str s⟩ (.map es) = .ok s)) ∧
    ∀ v : Value, (∀ p ∈ paths v, Unknown es p) →
      fill (.map es) v = .ok (emptied v) ∧
      ((∀ p ∈ paths v, expands p.toList = false) → fill (.map es) v = .ok v) := by
  refine ⟨fun name s unknown => ⟨fillText_unknown unknown, fun plain => ?_⟩,
    fun v unknown => ⟨fill_unknown v unknown, fun plain => ?_⟩⟩
  · exact (fillText_unknown unknown).trans (congrArg Except.ok (emptiedText_eq_self plain))
  · exact (fill_unknown v unknown).trans (congrArg Except.ok (emptied_eq_self v plain))

/-- A note on a release with no data for two of its placeholders. -/
def notice : String := "v\x7bversion.major\x7d: \x7bcommands[].name\x7d."

theorem render_unknown_notice :
    render ⟨"a.txt", "text", .str notice⟩ (.record [("title", .str "cli")]) =
      .ok "v\x7bversion.major\x7d: []." := by
  have read : holes notice = ["version.major", "commands[].name"] := by
    with_unfolding_all rfl
  have absent : ∀ p ∈ holes notice, Unknown [(.str "title", .str "cli")] p := by
    simp only [read, List.mem_cons, List.not_mem_nil, or_false, forall_eq_or_imp, forall_eq]
    constructor
    · exact ⟨⟨"version", false⟩, [⟨"major", false⟩], by with_unfolding_all rfl,
        by with_unfolding_all rfl⟩
    · exact ⟨⟨"commands", true⟩, [⟨"name", false⟩], by with_unfolding_all rfl,
        by with_unfolding_all rfl⟩
  have left : emptiedText notice = "v\x7bversion.major\x7d: []." := by
    with_unfolding_all rfl
  rw [← left]
  exact (render_unknown.1 "a.txt" notice absent).1

/-- A placeholder of which nothing is known does not always stay. -/
theorem render_unknown_not_kept :
    ¬ ∀ (es : Entries) (s : String), (∀ p ∈ holes s, Unknown es p) →
      render ⟨"a.txt", "text", .str s⟩ (.map es) = .ok s ∧
      fill (.map es) (.str s) = .ok (.str s) := by
  intro kept
  have read : holes "\x7ba[].b\x7d" = ["a[].b"] := by with_unfolding_all rfl
  have absent : ∀ p ∈ holes "\x7ba[].b\x7d", Unknown [] p := by
    simp only [read, List.mem_singleton, forall_eq]
    exact ⟨⟨"a", true⟩, [⟨"b", false⟩], by with_unfolding_all rfl, rfl⟩
  have gone := fill_unknown (.str "\x7ba[].b\x7d") absent
  have listed : emptiedLeaf "\x7ba[].b\x7d" = .list [] := by with_unfolding_all rfl
  rw [(kept [] _ absent).2, emptied, listed] at gone
  exact absurd gone (by simp)

end Quire.Template
