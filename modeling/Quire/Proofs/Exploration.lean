import Quire.Proofs.Legible

/-! All that a path leads to. Values are collected one segment of the path after the other, for
all branches at once; this comes to what going down each branch to its end would, one branch
after the other. So a path may be cut at any of its dots: what it leads to is what its second
part leads to from each place that its first part leads to, in their order. -/

namespace Quire

namespace Text

/-- Between two texts with something that shows between them, only the outer ends are cut off. -/
theorem stripChars_cut {cs ds : List Char} (last : ∀ c ∈ cs.getLast?, isBlank c = false)
    (first : ∀ c ∈ ds.head?, isBlank c = false) {c : Char} (shown : isBlank c = false) :
    stripChars (cs ++ c :: ds) = stripChars cs ++ c :: stripChars ds := by
  have front : (cs ++ c :: ds).dropWhile isBlank = cs.dropWhile isBlank ++ c :: ds := by
    rw [List.dropWhile_append]
    split
    · next none => simp [List.isEmpty_iff.mp none, shown]
    · rfl
  have back (es : List Char) :
      (es ++ c :: ds).rdropWhile isBlank = es ++ c :: ds.rdropWhile isBlank := by
    simp only [List.rdropWhile, List.reverse_append, List.reverse_cons, List.append_assoc,
      List.dropWhile_append]
    split
    · next none => simp [List.isEmpty_iff.mp none, shown]
    · simp
  have kept : stripChars cs = cs.dropWhile isBlank := by
    refine List.rdropWhile_eq_self_iff.mpr fun some => ?_
    obtain ⟨cut, whole⟩ := List.dropWhile_suffix (l := cs) isBlank
    have same : cs.getLast? = (cs.dropWhile isBlank).getLast? := by
      rw [← whole, List.getLast?_append_of_ne_nil _ some, whole]
    simp [last _ (same.trans (List.getLast?_eq_some_getLast some))]
  have kept' : stripChars ds = ds.rdropWhile isBlank := by
    have whole : ds.dropWhile isBlank = ds := by
      cases ds with
      | nil => rfl
      | cons d ds => simp [first d rfl]
    change (ds.dropWhile isBlank).rdropWhile isBlank = _
    rw [whole]
  change ((cs ++ c :: ds).dropWhile isBlank).rdropWhile isBlank = _
  rw [front, back, kept, kept']

end Text

namespace Path

variable {β γ : Type}

/-- From one value down the segments, each branch to its end before the next one; `arrive` says
what an end is worth. What is no mapping leads nowhere, nor does a key that is missing. A list or
a tuple branches at its elements where the segment asks for them; nothing else does. -/
def explore (arrive : Value → List β) : List Segment → Value → List β
  | [], v => arrive v
  | s :: rest, .map es =>
    match Entries.field? es s.key, s.expand with
    | some v, false => explore arrive rest v
    | some (.list xs), true => xs.flatMap (explore arrive rest)
    | some (.tuple xs), true => xs.flatMap (explore arrive rest)
    | _, _ => []
  | _ :: _, _ => []

/-- The places that a path leads to, in order. -/
def places : List Segment → Value → List Value := explore fun v => [v]

theorem explore_cons (arrive : Value → List β) (s : Segment) (rest : List Segment) (v : Value) :
    explore arrive (s :: rest) v = (step s v).flatMap (explore arrive rest) := by
  obtain ⟨key, expand⟩ := s
  cases v with
  | map es =>
    simp only [explore, step]
    cases Entries.field? es key with
    | none => rfl
    | some w =>
      cases expand with
      | false => simp
      | true => cases w <;> simp [Value.elements?]
  | _ => rfl

/-- Going on level by level reaches the same places in the same order. -/
theorem reach_eq_flatMap (segments : List Segment) (values : List Value) :
    reach values segments = values.flatMap (places segments) := by
  induction segments generalizing values with
  | nil => exact (List.flatMap_singleton' values).symm
  | cons s rest ih =>
    rw [reach, ih, List.flatMap_assoc]
    exact List.flatMap_congr fun v _ => (explore_cons _ s rest v).symm

theorem flatMap_explore (f : Value → List β) (g : β → List γ) (segments : List Segment)
    (v : Value) :
    (explore f segments v).flatMap g = explore (fun w => (f w).flatMap g) segments v := by
  induction segments generalizing v with
  | nil => rfl
  | cons s rest ih =>
    rw [explore_cons, explore_cons, List.flatMap_assoc]
    exact List.flatMap_congr fun w _ => ih w

theorem flatMap_places (g : Value → List β) (segments : List Segment) (v : Value) :
    (places segments v).flatMap g = explore g segments v := by
  rw [places, flatMap_explore]
  simp only [List.flatMap_singleton]

theorem explore_append (arrive : Value → List β) (front back : List Segment) (v : Value) :
    explore arrive (front ++ back) v = explore (explore arrive back) front v := by
  induction front generalizing v with
  | nil => rfl
  | cons s front ih =>
    rw [List.cons_append, explore_cons, explore_cons]
    exact List.flatMap_congr fun w _ => ih w

/-- What is collected level by level is what the ends of all branches are worth. -/
theorem collectAt_eq_explore (data : Value) (segments : List Segment) :
    collectAt data segments = explore leaves segments data := by
  rw [collectAt, reach_eq_flatMap, List.flatMap_singleton, flatMap_places]

theorem collectAt_append (data : Value) (front back : List Segment) :
    collectAt data (front ++ back) =
      (places front data).flatMap fun node => collectAt node back := by
  simp only [collectAt_eq_explore]
  rw [flatMap_places, explore_append]

/-- Without elements to branch at there is one end at most. -/
theorem explore_keys (arrive : Value → List β) (keys : List String) (v : Value) :
    explore arrive (keys.map fun key => ⟨key, false⟩) v =
      (Schema.Pointer.descend keys v).toList.flatMap arrive := by
  induction keys generalizing v with
  | nil => simp [explore, Schema.Pointer.descend]
  | cons key keys ih =>
    cases v with
    | map es =>
      cases found : Entries.field? es key with
      | none => simp [explore, Schema.Pointer.descend, found]
      | some w => simpa [explore, Schema.Pointer.descend, found] using ih w
    | _ => rfl

theorem null_notMem_leaves (v : Value) : Value.null ∉ leaves v := by
  unfold leaves
  split
  · exact List.not_mem_nil
  · exact fun inside => absurd (List.mem_filter.mp inside).2 (by decide)
  · next other _ => exact fun inside => other (List.mem_singleton.mp inside).symm

theorem null_notMem_explore_leaves (segments : List Segment) (data : Value) :
    Value.null ∉ explore leaves segments data := by
  rw [← flatMap_places]
  intro inside
  obtain ⟨v, _, leaf⟩ := List.mem_flatMap.mp inside
  exact null_notMem_leaves v leaf

/-- A path that can be read can be cut at a dot and its parts read apart, unless there are blanks
at the cut, which would count as part of a key only before. -/
theorem parse_cut {front back : String} {segments : List Segment}
    (read : parse (front ++ "." ++ back) = .ok segments)
    (last : ∀ c ∈ front.toList.getLast?, Text.isBlank c = false)
    (first : ∀ c ∈ back.toList.head?, Text.isBlank c = false) :
    ∃ fs bs, parse front = .ok fs ∧ parse back = .ok bs ∧ segments = fs ++ bs := by
  have pieces := parse_eq_ok_iff_mapM.mp read
  have whole : (front ++ "." ++ back).toList = front.toList ++ '.' :: back.toList := by simp
  rw [whole, Text.stripChars_cut last first (by decide), splitChars_append_cons,
    List.mapM_append] at pieces
  obtain ⟨fs, early, pieces⟩ := bind_eq_ok.mp pieces
  obtain ⟨bs, late, same⟩ := bind_eq_ok.mp pieces
  refine ⟨fs, bs, ?_, ?_, (Except.ok.inj same).symm⟩
  · exact parse_eq_ok_iff_mapM.mpr (mapM_eq_ok_of_imp (fun _ _ _ => ofPiece_path) early)
  · exact parse_eq_ok_iff_mapM.mpr (mapM_eq_ok_of_imp (fun _ _ _ => ofPiece_path) late)

theorem collect_eq {path : String} {segments : List Segment} (read : parse path = .ok segments)
    (data : Value) : collect data path = .ok (collectAt data segments) := by
  rw [collect, read]
  rfl

/-- What is collected at a path that can be read is what the ends of its branches are worth, each
branch gone down before the next. Of two parts of the path, the second is collected from each
place that the first leads to, whether the parts are told by their segments or cut at a dot; from
a path that asks for no elements comes what is found there; and null is never among what is
collected. -/
theorem collect_explores {path : String} {segments : List Segment}
    (read : parse path = .ok segments) (data : Value) :
    ∃ found, collect data path = .ok found ∧ found = explore leaves segments data ∧
      (∀ front back, segments = front ++ back →
        found = (places front data).flatMap fun node => collectAt node back) ∧
      (∀ front back : String, path = front ++ "." ++ back →
        (∀ c ∈ front.toList.getLast?, Text.isBlank c = false) →
        (∀ c ∈ back.toList.head?, Text.isBlank c = false) →
        ∃ fs groups, parse front = .ok fs ∧
          (places fs data).mapM (fun node => collect node back) = .ok groups ∧
          found = groups.flatten) ∧
      ((∀ s ∈ segments, s.expand = false) →
        ∃ held, get data path = .ok held ∧ found = held.toList.flatMap leaves) ∧
      Value.null ∉ found := by
  refine ⟨_, collect_eq read data, collectAt_eq_explore data segments, ?_, ?_, ?_, ?_⟩
  · rintro front back rfl
    exact collectAt_append data front back
  · rintro front back rfl last first
    obtain ⟨fs, bs, early, late, rfl⟩ := parse_cut read last first
    refine ⟨fs, _, early, mapM_eq_ok fun node _ => collect_eq late node, ?_⟩
    rw [collectAt_append, List.flatMap_def]
  · intro plain
    have keys : plainKeys path = .ok (segments.map Segment.key) := by
      have none : segments.any (·.expand) = false := by simpa using plain
      simp [plainKeys, read, none, bind, Except.bind, pure, Except.pure]
    have same := Except.ok.inj (read.symm.trans (parse_of_plainKeys keys))
    refine ⟨_, get_of_plainKeys keys data, ?_⟩
    rw [collectAt_eq_explore, same, explore_keys, ← same]
  · rw [collectAt_eq_explore]
    exact null_notMem_explore_leaves segments data

/-- Talks in a row, of which one is none, with tags of every sort. -/
def programme : Value :=
  .record
    [("talks", .tuple
      [.record [("tags", .list [.str "a", .null, .list [.str "b", .null]])], .str "break",
       .record [("tags", .null)], .record [("title", .str "c")], .record [("tags", .str "d")]])]

theorem collect_explores_programme :
    parse "talks[].tags" = .ok [⟨"talks", true⟩, ⟨"tags", false⟩] ∧
    ∃ found groups, collect programme "talks[].tags" = .ok found ∧
      found = [.str "a", .list [.str "b", .null], .str "d"] ∧
      found = explore leaves [⟨"talks", true⟩, ⟨"tags", false⟩] programme ∧
      (places [⟨"talks", true⟩] programme).mapM (fun node => collect node "tags") = .ok groups ∧
      found = groups.flatten ∧ Value.null ∉ found := by
  have read : parse "talks[].tags" = .ok [⟨"talks", true⟩, ⟨"tags", false⟩] := by
    with_unfolding_all rfl
  have first : parse "talks[]" = .ok [⟨"talks", true⟩] := by with_unfolding_all rfl
  obtain ⟨found, collected, explored, _, cuts, _, clean⟩ := collect_explores read programme
  have last : ∀ c ∈ "talks[]".toList.getLast?, Text.isBlank c = false := by
    rintro _ ⟨⟩
    rfl
  have next : ∀ c ∈ "tags".toList.head?, Text.isBlank c = false := by
    rintro _ ⟨⟩
    rfl
  obtain ⟨fs, groups, front, each, whole⟩ := cuts "talks[]" "tags" rfl last next
  obtain rfl := Except.ok.inj (front.symm.trans first)
  have tags : found = [.str "a", .list [.str "b", .null], .str "d"] := by
    rw [explored]
    with_unfolding_all rfl
  exact ⟨read, found, groups, collected, tags, explored, each, whole, clean⟩

end Path
end Quire
