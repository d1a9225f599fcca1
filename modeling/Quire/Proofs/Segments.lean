import Mathlib.Data.List.DropRight
import Mathlib.Data.List.TakeWhile
import Quire.Proofs.Chain
import Quire.Schema

/-! Which texts are dot paths. A path is a row of pieces with dots between them, each a key
without brackets or such a key with a pair of brackets after it. What is read from a path is
spelled as the path is, so that only paths which differ in nothing but the blanks around them
are read alike. -/

namespace Quire

theorem splitChars_eq_splitOn (separator : Char) (cs : List Char) :
    splitChars separator cs = cs.splitOn separator := by
  induction cs with
  | nil => rfl
  | cons c cs ih =>
    rw [splitChars, ih, List.splitOn, List.splitOn, List.splitOnP_cons_eq_if_modifyHead]
    obtain ⟨piece, pieces, eq⟩ :=
      List.exists_cons_of_ne_nil (List.splitOnP_ne_nil (· == separator) cs)
    by_cases here : c = separator <;> simp [eq, here]

/-- Where one text ends and another begins, the last piece of the one and the first piece of the
other are one piece. -/
theorem splitChars_append (separator : Char) (xs : List Char) : ∃ front last,
    splitChars separator xs = front ++ [last] ∧
    ∀ {ys head rest}, splitChars separator ys = head :: rest →
      splitChars separator (xs ++ ys) = front ++ (last ++ head) :: rest := by
  induction xs with
  | nil => exact ⟨[], [], rfl, fun split => split⟩
  | cons c xs ih =>
    obtain ⟨front, last, split, joins⟩ := ih
    by_cases here : c = separator
    · refine ⟨[] :: front, last, ?_, fun other => ?_⟩
      · rw [splitChars, split]
        cases front <;> simp [here]
      · rw [List.cons_append, splitChars, joins other]
        cases front <;> simp [here]
    · cases front with
      | nil =>
        refine ⟨[], c :: last, ?_, fun other => ?_⟩
        · simp [splitChars, split, here]
        · simp [splitChars, joins other, here]
      | cons piece front =>
        refine ⟨(c :: piece) :: front, last, ?_, fun other => ?_⟩
        · simp [splitChars, split, here]
        · simp [splitChars, joins other, here]

theorem splitChars_of_notMem {separator : Char} {cs : List Char} (unsplit : separator ∉ cs) :
    splitChars separator cs = [cs] := by
  induction cs with
  | nil => rfl
  | cons c cs ih =>
    simp only [List.mem_cons, not_or] at unsplit
    simp [splitChars, ih unsplit.2, Ne.symm unsplit.1]

theorem notMem_of_mem_splitChars {separator : Char} {cs piece : List Char}
    (inside : piece ∈ splitChars separator cs) : separator ∉ piece := by
  induction cs generalizing piece with
  | nil => simp_all [splitChars]
  | cons c cs ih =>
    obtain ⟨head, rest, split⟩ := List.exists_cons_of_ne_nil (splitChars_ne_nil separator cs)
    rw [split, List.forall_mem_cons] at ih
    obtain ⟨first, others⟩ := ih
    simp only [splitChars, split] at inside
    split at inside
    · simp only [List.mem_cons] at inside
      rcases inside with rfl | rfl | later
      · exact List.not_mem_nil
      · exact first
      · exact others piece later
    · next other =>
      rcases List.mem_cons.mp inside with rfl | later
      · simp [first, Ne.symm other]
      · exact others piece later

theorem splitChars_append_cons (separator : Char) (xs ys : List Char) :
    splitChars separator (xs ++ separator :: ys) =
      splitChars separator xs ++ splitChars separator ys := by
  obtain ⟨front, last, split, joins⟩ := splitChars_append separator xs
  obtain ⟨piece, pieces, other⟩ := List.exists_cons_of_ne_nil (splitChars_ne_nil separator ys)
  have next : splitChars separator (separator :: ys) = [] :: piece :: pieces := by
    simp [splitChars, other]
  rw [joins next, split, other]
  simp

theorem unbracket_eq_some_iff {cs key : List Char} :
    unbracket cs = some key ↔ cs = key ++ ['[', ']'] := by
  constructor
  · intro cut
    unfold unbracket at cut
    split at cut
    · next rest reversed =>
      obtain rfl := Option.some.inj cut
      have back := congrArg List.reverse reversed
      simpa using back
    · cases cut
  · rintro rfl
    exact unbracket_append key

theorem unbracket_of_notMem {cs : List Char} (unclosed : ']' ∉ cs) : unbracket cs = none := by
  refine Option.eq_none_iff_forall_ne_some.mpr fun key cut => unclosed ?_
  rw [unbracket_eq_some_iff.mp cut]
  simp

namespace Text

theorem trim_eq_self_iff {cut : Char → Bool} {cs : List Char} :
    trim cut cs = cs ↔
      (∀ c ∈ cs.head?, cut c = false) ∧ ∀ c ∈ cs.getLast?, cut c = false := by
  have front : cs.dropWhile cut = cs ↔ ∀ c ∈ cs.head?, cut c = false := by
    rw [List.dropWhile_eq_self_iff]
    cases cs <;> simp
  have back : cs.rdropWhile cut = cs ↔ ∀ c ∈ cs.getLast?, cut c = false := by
    rw [List.rdropWhile_eq_self_iff]
    cases cs <;> simp [List.getLast?_eq_some_getLast]
  rw [← front, ← back]
  constructor
  · intro whole
    have shorter : (trim cut cs).length ≤ (cs.dropWhile cut).length :=
      (List.rdropWhile_prefix cut (cs.dropWhile cut)).length_le
    have kept : cs.dropWhile cut = cs :=
      (List.dropWhile_suffix cut).eq_of_length_le (by rwa [whole] at shorter)
    refine ⟨kept, ?_⟩
    have cutBack : (cs.dropWhile cut).rdropWhile cut = cs := whole
    rwa [kept] at cutBack
  · rintro ⟨front, back⟩
    change (cs.dropWhile cut).rdropWhile cut = cs
    rw [front, back]

theorem trim_trim (cut : Char → Bool) (cs : List Char) : trim cut (trim cut cs) = trim cut cs := by
  have whole : trim cut cs = (cs.dropWhile cut).rdropWhile cut := rfl
  refine trim_eq_self_iff.mpr ⟨fun c head => ?_, fun c last => ?_⟩
  · have first : (cs.dropWhile cut).head? = some c := by
      obtain ⟨rest, eq⟩ := List.rdropWhile_prefix cut (cs.dropWhile cut)
      rw [← eq, List.head?_append, ← whole, head]
      rfl
    have uncut := List.head?_dropWhile_not cut cs
    rwa [first] at uncut
  · rw [whole] at last
    have some : (cs.dropWhile cut).rdropWhile cut ≠ [] := by
      intro none
      simp [none] at last
    rw [List.getLast?_eq_some_getLast some] at last
    obtain rfl := Option.some.inj last
    simpa using List.rdropWhile_last_not cut (cs.dropWhile cut) some

theorem trim_eq_nil_iff {cut : Char → Bool} {cs : List Char} :
    trim cut cs = [] ↔ ∀ c ∈ cs, cut c = true := by
  change (cs.dropWhile cut).rdropWhile cut = [] ↔ _
  rw [List.rdropWhile_eq_nil_iff, ← List.dropWhile_eq_nil_iff, List.dropWhile_idempotent cut cs,
    List.dropWhile_eq_nil_iff]

theorem stripChars_of_strip {s : String} (trimmed : strip s = s) :
    stripChars s.toList = s.toList := by
  have chars := congrArg String.toList trimmed
  rwa [strip, String.toList_ofList] at chars

theorem strip_strip (s : String) : strip (strip s) = strip s := by
  rw [strip, strip, String.toList_ofList, stripChars, stripChars, trim_trim]

/-- Text that has no blanks at its ends still has none when more such text follows. -/
theorem stripChars_append {cs ds : List Char} (first : stripChars cs = cs) (nonempty : cs ≠ [])
    (second : stripChars ds = ds) (nonempty' : ds ≠ []) (c : Char) :
    stripChars (cs ++ c :: ds) = cs ++ c :: ds := by
  refine trim_eq_self_iff.mpr ⟨?_, ?_⟩
  · intro d head
    refine (trim_eq_self_iff.mp first).1 d ?_
    rwa [List.head?_append_of_ne_nil _ nonempty] at head
  · intro d last
    refine (trim_eq_self_iff.mp second).2 d ?_
    rwa [List.getLast?_append_of_ne_nil _ (List.cons_ne_nil c ds),
      List.getLast?_cons_of_ne_nil nonempty'] at last

end Text

theorem splitChars_eq_iff {separator : Char} {cs : List Char} {pieces : List (List Char)} :
    splitChars separator cs = pieces ↔ pieces ≠ [] ∧ (∀ piece ∈ pieces, separator ∉ piece) ∧
      [separator].intercalate pieces = cs := by
  constructor
  · rintro rfl
    refine ⟨splitChars_ne_nil separator cs, fun piece inside => notMem_of_mem_splitChars inside, ?_⟩
    rw [splitChars_eq_splitOn]
    exact List.intercalate_splitOn separator
  · rintro ⟨some, undivided, rfl⟩
    rw [splitChars_eq_splitOn]
    exact List.splitOn_intercalate separator undivided some

/-- Going through a list by steps that undo a function gives what the function makes the list
of. -/
theorem mapM_eq_ok_iff {α β ε : Type} {f : α → Except ε β} {spell : β → α} {P : β → Prop}
    (undoes : ∀ x y, f x = .ok y ↔ spell y = x ∧ P y) {xs : List α} {ys : List β} :
    xs.mapM f = .ok ys ↔ ys.map spell = xs ∧ ∀ y ∈ ys, P y := by
  induction xs generalizing ys with
  | nil =>
    constructor
    · intro all
      obtain rfl := Except.ok.inj all
      exact ⟨rfl, nofun⟩
    · rintro ⟨none', _⟩
      obtain rfl := List.map_eq_nil_iff.mp none'
      rfl
  | cons x xs ih =>
    rw [mapM_cons_eq_ok]
    constructor
    · rintro ⟨y, ys, first, rest, rfl⟩
      obtain ⟨rfl, holds⟩ := (undoes x y).mp first
      obtain ⟨rfl, others⟩ := ih.mp rest
      exact ⟨rfl, List.forall_mem_cons.mpr ⟨holds, others⟩⟩
    · rintro ⟨spelled, all⟩
      obtain ⟨y, ys, rfl, first, rest⟩ := List.map_eq_cons_iff.mp spelled
      obtain ⟨holds, others⟩ := List.forall_mem_cons.mp all
      exact ⟨y, ys, (undoes x y).mpr ⟨first, holds⟩, ih.mpr ⟨rest, others⟩, rfl⟩

namespace Segment

/-- A segment that a path can spell: its key is not empty, and has neither dots nor brackets. -/
structure Spelled (s : Segment) : Prop where
  nonempty : s.key ≠ ""
  undotted : '.' ∉ s.key.toList
  unopened : '[' ∉ s.key.toList
  unclosed : ']' ∉ s.key.toList

instance (s : Segment) : Decidable s.Spelled :=
  decidable_of_iff (s.key ≠ "" ∧ '.' ∉ s.key.toList ∧ '[' ∉ s.key.toList ∧ ']' ∉ s.key.toList)
    ⟨fun ⟨a, b, c, d⟩ => ⟨a, b, c, d⟩, fun ⟨a, b, c, d⟩ => ⟨a, b, c, d⟩⟩

/-- What may stand between the dots of a path: a key without brackets, which may be followed by
one pair of them. -/
def IsPiece (piece : List Char) : Prop :=
  ∃ key, key ≠ [] ∧ '[' ∉ key ∧ ']' ∉ key ∧ (piece = key ∨ piece = key ++ ['[', ']'])

theorem toList_render (s : Segment) :
    s.render.toList = s.key.toList ++ if s.expand then ['[', ']'] else [] := by
  cases expands : s.expand <;> simp [render, expands]

/-- A piece is read as the segment that it spells. -/
theorem ofPiece_eq_ok_iff {path : String} {piece : List Char} {s : Segment} :
    ofPiece path piece = .ok s ↔ s.render.toList = piece ∧
      s.key ≠ "" ∧ '[' ∉ s.key.toList ∧ ']' ∉ s.key.toList := by
  rw [toList_render]
  constructor
  · intro read
    simp only [ofPiece] at read
    split at read
    · cases read
    · next nonempty =>
      split at read
      · cases read
      · next clean =>
        obtain rfl := Except.ok.inj read
        simp only [Bool.or_eq_true, List.contains_iff_mem, not_or] at clean
        simp only [List.isEmpty_iff] at nonempty
        refine ⟨?_, by simpa using nonempty, by simpa using clean.1, by simpa using clean.2⟩
        cases cut : unbracket piece with
        | none => simp
        | some key => simp [unbracket_eq_some_iff.mp cut]
  · rintro ⟨rfl, nonempty, unopened, unclosed⟩
    obtain ⟨key, expand⟩ := s
    have whole := unbracket_of_notMem unclosed
    cases expand <;> simp_all [ofPiece]

theorem isPiece_iff {path : String} {piece : List Char} :
    IsPiece piece ↔ ∃ s, ofPiece path piece = .ok s := by
  constructor
  · rintro ⟨key, nonempty, unopened, unclosed, rfl | rfl⟩
    · refine ⟨⟨String.ofList piece, false⟩, ofPiece_eq_ok_iff.mpr ?_⟩
      simp [toList_render, nonempty, unopened, unclosed]
    · refine ⟨⟨String.ofList key, true⟩, ofPiece_eq_ok_iff.mpr ?_⟩
      simp [toList_render, nonempty, unopened, unclosed]
  · rintro ⟨s, read⟩
    obtain ⟨rfl, nonempty, unopened, unclosed⟩ := ofPiece_eq_ok_iff.mp read
    refine ⟨s.key.toList, by simpa using nonempty, unopened, unclosed, ?_⟩
    rw [toList_render]
    cases s.expand <;> simp

end Segment

namespace Path

variable {path other : String} {segments : List Segment}

theorem toList_render (segments : List Segment) :
    (render segments).toList = ['.'].intercalate (segments.map fun s => s.render.toList) := by
  simp [render, String.toList_intercalate, Function.comp_def]

theorem toList_render_cons (s t : Segment) (segments : List Segment) :
    (render (s :: t :: segments)).toList =
      s.render.toList ++ '.' :: (render (t :: segments)).toList := by
  simp [toList_render, List.intercalate_cons_cons]

/-- A path is read piece by piece; nothing but blanks is one piece, which is empty. -/
theorem parse_eq_ok_iff_mapM : parse path = .ok segments ↔
    (splitChars '.' (Text.stripChars path.toList)).mapM (Segment.ofPiece path) = .ok segments := by
  unfold parse
  split
  · next blank =>
    have none' : Text.stripChars path.toList = [] :=
      Text.trim_eq_nil_iff.mpr (List.all_eq_true.mp blank)
    rw [none']
    exact ⟨nofun, nofun⟩
  · rfl

/-- A path is read as the segments whose spelling it is, but for blanks around it. -/
theorem parse_eq_ok_iff : parse path = .ok segments ↔
    segments ≠ [] ∧ (∀ s ∈ segments, s.Spelled) ∧ render segments = Text.strip path := by
  have text : render segments = Text.strip path ↔
      ['.'].intercalate (segments.map fun s => s.render.toList) =
        Text.stripChars path.toList := by
    rw [← toList_render, ← String.toList_inj, Text.strip, String.toList_ofList]
  -- Brackets bring no dots with them.
  have undotted (s : Segment) : '.' ∉ s.render.toList ↔ '.' ∉ s.key.toList := by
    rw [Segment.toList_render]
    cases s.expand <;> simp
  rw [parse_eq_ok_iff_mapM, mapM_eq_ok_iff fun _ _ => Segment.ofPiece_eq_ok_iff, eq_comm,
    splitChars_eq_iff, text]
  constructor
  · rintro ⟨⟨some, apart, spelled⟩, keys⟩
    refine ⟨by simpa using some, fun s inside => ?_, spelled⟩
    obtain ⟨nonempty, unopened, unclosed⟩ := keys s inside
    have apart := apart s.render.toList (List.mem_map.mpr ⟨s, inside, rfl⟩)
    exact ⟨nonempty, (undotted s).mp apart, unopened, unclosed⟩
  · rintro ⟨some, keys, spelled⟩
    refine ⟨⟨by simpa using some, ?_, spelled⟩, fun s inside => ?_⟩
    · intro piece inside
      obtain ⟨s, there, rfl⟩ := List.mem_map.mp inside
      exact (undotted s).mpr (keys s there).undotted
    · have this := keys s inside
      exact ⟨this.nonempty, this.unopened, this.unclosed⟩

/-- Segments that are spelled in a path read back from it. -/
theorem parse_render (some : segments ≠ []) (keys : ∀ s ∈ segments, s.Spelled)
    (trimmed : Text.strip (render segments) = render segments) :
    parse (render segments) = .ok segments :=
  parse_eq_ok_iff.mpr ⟨some, keys, trimmed.symm⟩

/-- A text can be read if each piece of it can. -/
theorem exists_parse_iff : (∃ segments, parse path = .ok segments) ↔
    ∀ piece ∈ splitChars '.' (Text.stripChars path.toList), Segment.IsPiece piece := by
  constructor
  · rintro ⟨segments, read⟩ piece inside
    obtain ⟨s, _, spells⟩ := exists_of_mapM (parse_eq_ok_iff_mapM.mp read) inside
    exact Segment.isPiece_iff.mpr ⟨s, spells⟩
  · intro each
    cases read : (splitChars '.' (Text.stripChars path.toList)).mapM (Segment.ofPiece path) with
    | ok segments => exact ⟨segments, parse_eq_ok_iff_mapM.mpr read⟩
    | error e =>
      obtain ⟨piece, inside, failed⟩ := mapM_error read
      obtain ⟨s, spells⟩ := Segment.isPiece_iff.mp (each piece inside)
      rw [spells] at failed
      cases failed

/-- A text is a path just when, without blanks around it, each piece between its dots is a key
without brackets or one with a pair of brackets after it; and it is read as segments just when
it spells them, but for blanks around it. So segments with keys that can be spelled read back
from their spelling, unless that has blanks at its ends, and two paths are read alike only if
they differ in nothing but blanks around them. -/
theorem parse_spelled :
    (∀ path, (∃ segments, parse path = .ok segments) ↔
      ∀ piece ∈ (Text.stripChars path.toList).splitOn '.', Segment.IsPiece piece) ∧
    (∀ path segments, parse path = .ok segments ↔
      segments ≠ [] ∧ (∀ s ∈ segments, s.Spelled) ∧ render segments = Text.strip path) ∧
    (∀ segments, segments ≠ [] → (∀ s ∈ segments, s.Spelled) →
      Text.strip (render segments) = render segments → parse (render segments) = .ok segments) ∧
    ∀ path other segments, parse path = .ok segments →
      (parse other = .ok segments ↔ Text.strip other = Text.strip path) := by
  refine ⟨fun path => ?_, fun path segments => parse_eq_ok_iff, fun segments => parse_render,
    fun path other segments read => ?_⟩
  · rw [exists_parse_iff, splitChars_eq_splitOn]
  · obtain ⟨some, keys, spelled⟩ := parse_eq_ok_iff.mp read
    rw [parse_eq_ok_iff, ← spelled]
    exact ⟨fun ⟨_, _, same⟩ => same.symm, fun same => ⟨some, keys, same.symm⟩⟩

/-- The names that are given in each talk. -/
def talkNames : List Segment := [⟨"talks", true⟩, ⟨"given name", false⟩]

theorem parse_spelled_talks :
    (talkNames ≠ [] ∧ (∀ s ∈ talkNames, s.Spelled) ∧
      Text.strip (render talkNames) = render talkNames) ∧
    render talkNames = "talks[].given name" ∧
    parse "talks[].given name" = .ok talkNames ∧ parse " talks[].given name\n" = .ok talkNames ∧
    parse "talks[].given  name" ≠ .ok talkNames ∧
    ¬∃ segments, parse "talks[][].given name" = .ok segments := by
  have keys : ∀ s ∈ talkNames, s.Spelled := by decide +kernel
  have trimmed : Text.strip (render talkNames) = render talkNames := by decide +kernel
  have spelled : render talkNames = "talks[].given name" := by decide +kernel
  obtain ⟨grammar, _, back, alike⟩ := parse_spelled
  have read := back talkNames (by decide) keys trimmed
  rw [spelled] at read
  refine ⟨⟨by decide, keys, trimmed⟩, spelled, read, ?_, ?_, ?_⟩
  · exact (alike _ " talks[].given name\n" _ read).mpr (by decide +kernel)
  · exact fun wider => absurd ((alike _ "talks[].given  name" _ read).mp wider) (by decide +kernel)
  · intro read
    obtain ⟨key, _, unopened, _, rfl | whole⟩ :=
      (grammar "talks[][].given name").mp read "talks[][]".toList (by decide +kernel)
    · exact absurd unopened (by decide)
    · have cut := unbracket_eq_some_iff.mpr whole
      obtain rfl : "talks[]".toList = key := Option.some.inj cut
      exact absurd unopened (by decide)

end Path
end Quire
