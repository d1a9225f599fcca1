import Quire.Proofs.Segments
import Quire.Template

/-! Placeholders as they are spelled. A placeholder is a dot path between braces whose keys
begin with a letter or an underscore. The search for one finds exactly these, and the path in
it reads back as the segments that it spells, so that looking it up cannot go wrong. -/

namespace Quire

namespace Text

theorem isBlank_of_isAsciiWord {c : Char} (word : isAsciiWord c = true) : isBlank c = false := by
  have range : 48 ≤ c.toNat ∧ c.toNat ≤ 122 := by
    simp only [isAsciiWord, Char.isAlphanum] at word
    delta Char.isAlpha Char.isUpper Char.isLower at word
    simp only [Char.isDigit, Bool.or_eq_true, Bool.and_eq_true, decide_eq_true_eq, ge_iff_le,
      UInt32.le_iff_toNat_le] at word
    rcases word with ((upper | lower) | digit) | rfl
    · simp at upper; omega
    · simp at lower; omega
    · simp at digit; omega
    · decide
  have outside : ∀ blank ∈ blankRuns, 122 < blank.1 ∨ blank.2 < 48 := by decide
  by_contra blank
  simp only [Bool.not_eq_false, isBlank, List.any_eq_true, Bool.and_eq_true,
    decide_eq_true_eq] at blank
  obtain ⟨gap, inside, low, high⟩ := blank
  have := outside gap inside
  omega

/-- No run of word characters meets a run of blanks. -/
theorem isBlank_of_isWord {c : Char} (word : isWord c = true) : isBlank c = false := by
  unfold isWord at word
  split at word
  · exact isBlank_of_isAsciiWord word
  · have apart : ∀ run ∈ wordRuns, ∀ blank ∈ blankRuns, run.2 < blank.1 ∨ blank.2 < run.1 := by
      decide +kernel
    by_contra blank
    simp only [Bool.not_eq_false, isBlank, List.any_eq_true, Bool.and_eq_true,
      decide_eq_true_eq] at blank word
    obtain ⟨gap, inside, low, high⟩ := blank
    obtain ⟨run, there, low', high'⟩ := word
    have := apart run there gap inside
    omega

end Text

namespace Template

/-! ### Keys and paths -/

/-- A key that a placeholder can spell. -/
def isKey : List Char → Bool
  | [] => false
  | c :: rest => isKeyStart c && rest.all isKeyChar

/-- Segments that a placeholder can spell. -/
structure Nameable (segments : List Segment) : Prop where
  nonempty : segments ≠ []
  keys : ∀ s ∈ segments, isKey s.key.toList = true

instance (segments : List Segment) : Decidable (Nameable segments) :=
  decidable_of_iff (segments ≠ [] ∧ ∀ s ∈ segments, isKey s.key.toList = true)
    ⟨fun ⟨a, b⟩ => ⟨a, b⟩, fun ⟨a, b⟩ => ⟨a, b⟩⟩

theorem Nameable.of_cons {s t : Segment} {segments : List Segment}
    (nameable : Nameable (s :: t :: segments)) : Nameable (t :: segments) :=
  ⟨List.cons_ne_nil _ _, fun u inside => nameable.keys u (List.mem_cons_of_mem s inside)⟩

theorem isKeyChar_of_isKeyStart {c : Char} (start : isKeyStart c = true) :
    isKeyChar c = true := by
  simp only [isKeyStart, Bool.or_eq_true, decide_eq_true_eq] at start
  rcases start with letter | rfl
  · have ascii : c.toNat < 128 := by
      delta Char.isAlpha Char.isUpper Char.isLower at letter
      simp only [Bool.or_eq_true, Bool.and_eq_true, decide_eq_true_eq, ge_iff_le,
        UInt32.le_iff_toNat_le] at letter
      rcases letter with upper | lower
      · simp at upper; omega
      · simp at lower; omega
    simp [isKeyChar, Text.isWord, ascii, Text.isAsciiWord, Char.isAlphanum, letter]
  · decide

theorem isKeyChar_of_isKey {cs : List Char} (key : isKey cs = true) :
    ∀ c ∈ cs, isKeyChar c = true := by
  cases cs with
  | nil => exact nofun
  | cons c rest =>
    simp only [isKey, Bool.and_eq_true, List.all_eq_true] at key
    simpa using ⟨isKeyChar_of_isKeyStart key.1, key.2⟩

theorem isBlank_of_isKeyChar {c : Char} (key : isKeyChar c = true) : Text.isBlank c = false := by
  simp only [isKeyChar, Bool.or_eq_true, decide_eq_true_eq] at key
  rcases key with word | rfl
  · exact Text.isBlank_of_isWord word
  · decide

theorem ne_nil_of_isKey {cs : List Char} (key : isKey cs = true) : cs ≠ [] := by
  rintro rfl
  simp [isKey] at key

theorem notMem_of_isKey {cs : List Char} (key : isKey cs = true) {c : Char}
    (other : isKeyChar c = false) : c ∉ cs := by
  intro inside
  simp [isKeyChar_of_isKey key c inside] at other

theorem forall_render {P : Char → Prop} (dot : P '.') (opening : P '[') (closing : P ']')
    {segments : List Segment} (keys : ∀ s ∈ segments, ∀ c ∈ s.key.toList, P c) :
    ∀ c ∈ (Path.render segments).toList, P c := by
  have one (s : Segment) (key : ∀ c ∈ s.key.toList, P c) : ∀ c ∈ s.render.toList, P c := by
    intro c inside
    rw [Segment.toList_render] at inside
    rcases List.mem_append.mp inside with inside | inside
    · exact key c inside
    · split at inside
      · simp at inside
        rcases inside with rfl | rfl <;> assumption
      · cases inside
  induction segments with
  | nil => simp [Path.toList_render]
  | cons s rest ih =>
    have first := one s (keys s List.mem_cons_self)
    have others := ih fun t inside => keys t (List.mem_cons_of_mem s inside)
    cases rest with
    | nil => simpa [Path.toList_render] using first
    | cons t rest =>
      intro c inside
      rw [Path.toList_render_cons] at inside
      rcases List.mem_append.mp inside with inside | inside
      · exact first c inside
      · rcases List.mem_cons.mp inside with rfl | inside
        · exact dot
        · exact others c inside

/-- No brace stands in a path. -/
theorem brace_notMem_render {segments : List Segment} (nameable : Nameable segments) :
    openBrace ∉ (Path.render segments).toList ∧ closeBrace ∉ (Path.render segments).toList := by
  have plain : ∀ c ∈ (Path.render segments).toList, c ≠ openBrace ∧ c ≠ closeBrace := by
    refine forall_render (by decide) (by decide) (by decide) fun s inside c among => ?_
    have key := isKeyChar_of_isKey (nameable.keys s inside) c among
    constructor
    · rintro rfl
      exact absurd key (by decide)
    · rintro rfl
      exact absurd key (by decide)
  exact ⟨fun inside => (plain _ inside).1 rfl, fun inside => (plain _ inside).2 rfl⟩

/-- The path in a placeholder reads back as its segments. -/
theorem Nameable.parse {segments : List Segment} (nameable : Nameable segments) :
    Path.parse (Path.render segments) = .ok segments := by
  refine Path.parse_render nameable.nonempty (fun s inside => ?_) ?_
  · have key := nameable.keys s inside
    exact ⟨by simpa using ne_nil_of_isKey key, notMem_of_isKey key (by decide),
      notMem_of_isKey key (by decide), notMem_of_isKey key (by decide)⟩
  · have visible : ∀ c ∈ (Path.render segments).toList, Text.isBlank c = false :=
      forall_render (by decide) (by decide) (by decide) fun s inside c among =>
        isBlank_of_isKeyChar (isKeyChar_of_isKey (nameable.keys s inside) c among)
    have trimmed := Text.trim_eq_self_iff.mpr
      ⟨fun c head => visible c (List.mem_of_mem_head? head),
        fun c last => visible c (List.mem_of_mem_getLast? last)⟩
    rw [Text.strip, Text.stripChars, trimmed, String.ofList_toList]

/-! ### The search for a placeholder -/

theorem key?_sound {cs name after : List Char} (found : key? cs = some (name, after)) :
    ∃ s : Segment, isKey s.key.toList = true ∧ s.render.toList = name ∧ cs = name ++ after := by
  cases cs with
  | nil => simp [key?] at found
  | cons c rest =>
    simp only [key?] at found
    split at found
    · next start =>
      have key : isKey (c :: rest.takeWhile isKeyChar) = true := by
        simp [isKey, start, List.all_takeWhile]
      have cut := List.takeWhile_append_dropWhile (p := isKeyChar) (l := rest)
      split at found
      · next after' brackets =>
        obtain ⟨rfl, rfl⟩ := Prod.mk.inj (Option.some.inj found)
        refine ⟨⟨String.ofList (c :: rest.takeWhile isKeyChar), true⟩, ?_, ?_, ?_⟩
        · simpa using key
        · simp [Segment.toList_render]
        · rw [brackets] at cut
          simpa using cut.symm
      · obtain ⟨rfl, rfl⟩ := Prod.mk.inj (Option.some.inj found)
        refine ⟨⟨String.ofList (c :: rest.takeWhile isKeyChar), false⟩, ?_, ?_, ?_⟩
        · simpa using key
        · simp [Segment.toList_render]
        · rw [List.cons_append, cut]
    · cases found

/-- A key ends where neither a character of keys nor a bracket comes. -/
theorem key?_complete {s : Segment} (key : isKey s.key.toList = true) {d : Char}
    (stops : isKeyChar d = false) (other : d ≠ '[') (rest : List Char) :
    key? (s.render.toList ++ d :: rest) = some (s.render.toList, d :: rest) := by
  obtain ⟨c, more, spelled⟩ := List.exists_cons_of_ne_nil (ne_nil_of_isKey key)
  rw [spelled] at key
  simp only [isKey, Bool.and_eq_true, List.all_eq_true] at key
  obtain ⟨start, goes⟩ := key
  have bracket : isKeyChar '[' = false := by decide
  rw [Segment.toList_render, spelled]
  cases s.expand with
  | true =>
    simp [key?, start, List.takeWhile_append_of_pos goes, List.dropWhile_append_of_pos goes,
      bracket]
  | false =>
    simp [key?, start, List.takeWhile_append_of_pos goes, List.dropWhile_append_of_pos goes,
      stops, other]

theorem keys?_sound {count : Nat} {cs path after : List Char}
    (found : keys? count cs = some (path, after)) :
    ∃ segments, Nameable segments ∧ (Path.render segments).toList = path ∧
      cs = path ++ closeBrace :: after := by
  induction count generalizing cs path after with
  | zero => simp [keys?] at found
  | succ count ih =>
    simp only [keys?] at found
    split at found
    · cases found
    · next name c rest first =>
      obtain ⟨s, key, spelled, rfl⟩ := key?_sound first
      split at found
      · next closes =>
        obtain ⟨rfl, rfl⟩ := Prod.mk.inj (Option.some.inj found)
        refine ⟨[s], ⟨List.cons_ne_nil _ _, by simpa using key⟩, ?_, by rw [closes]⟩
        simpa [Path.toList_render] using spelled
      · split at found
        · next dot =>
          obtain ⟨⟨more, rest'⟩, later, same⟩ := Option.map_eq_some_iff.mp found
          obtain ⟨rfl, rfl⟩ := Prod.mk.inj same
          obtain ⟨segments, nameable, spelled', rfl⟩ := ih later
          obtain ⟨t, segments, rfl⟩ := List.exists_cons_of_ne_nil nameable.nonempty
          refine ⟨s :: t :: segments, ⟨List.cons_ne_nil _ _, ?_⟩, ?_, ?_⟩
          · exact List.forall_mem_cons.mpr ⟨key, nameable.keys⟩
          · rw [Path.toList_render_cons, spelled, spelled']
          · rw [dot]
            simp
        · cases found
    · cases found

theorem keys?_complete {segments : List Segment} (nameable : Nameable segments) {count : Nat}
    (enough : segments.length ≤ count) (after : List Char) :
    keys? count ((Path.render segments).toList ++ closeBrace :: after) =
      some ((Path.render segments).toList, after) := by
  induction count generalizing segments with
  | zero =>
    have := List.length_pos_of_ne_nil nameable.nonempty
    omega
  | succ count ih =>
    obtain ⟨s, rest, rfl⟩ := List.exists_cons_of_ne_nil nameable.nonempty
    have key := nameable.keys s List.mem_cons_self
    cases rest with
    | nil =>
      have first := key?_complete key (d := closeBrace) (by decide) (by decide) after
      simp [keys?, Path.toList_render, first]
    | cons t rest =>
      have first := key?_complete key (d := '.') (by decide) (by decide)
        ((Path.render (t :: rest)).toList ++ closeBrace :: after)
      have later := ih nameable.of_cons (by simpa using enough)
      have dot : '.' ≠ closeBrace := by decide
      simp [keys?, Path.toList_render_cons, first, later, dot]

theorem length_le_render {segments : List Segment}
    (keys : ∀ s ∈ segments, isKey s.key.toList = true) :
    segments.length ≤ (Path.render segments).toList.length := by
  induction segments with
  | nil => exact Nat.zero_le _
  | cons s rest ih =>
    have others := ih fun t inside => keys t (List.mem_cons_of_mem s inside)
    have first : 0 < s.render.toList.length := by
      have some := List.length_pos_of_ne_nil (ne_nil_of_isKey (keys s List.mem_cons_self))
      rw [Segment.toList_render, List.length_append]
      omega
    cases rest with
    | nil => simpa [Path.toList_render, Nat.one_le_iff_ne_zero, Nat.pos_iff_ne_zero] using first
    | cons t rest =>
      simp only [Path.toList_render_cons, List.length_append, List.length_cons] at others ⊢
      omega

/-- A placeholder as it stands in a text. -/
def placeholder (segments : List Segment) : List Char :=
  openBrace :: (Path.render segments).toList ++ [closeBrace]

/-- The search finds a placeholder where one stands, and nothing else. -/
theorem hole?_eq_some_iff {cs path after : List Char} :
    hole? cs = some (path, after) ↔ ∃ segments, Nameable segments ∧
      path = (Path.render segments).toList ∧ cs = placeholder segments ++ after := by
  constructor
  · intro found
    unfold hole? at found
    split at found
    · cases found
    · split at found
      · next c rest opens =>
        obtain ⟨segments, nameable, spelled, rfl⟩ := keys?_sound found
        exact ⟨segments, nameable, spelled.symm, by simp [placeholder, opens, spelled]⟩
      · cases found
  · rintro ⟨segments, nameable, rfl, rfl⟩
    have few := length_le_render nameable.keys
    have enough : segments.length ≤
        ((Path.render segments).toList ++ closeBrace :: after).length := by
      rw [List.length_append]
      omega
    have found := keys?_complete nameable enough after
    simpa [hole?, placeholder] using found

end Template
end Quire
