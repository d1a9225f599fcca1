import Quire.Proofs.Placeholder
import Quire.Proofs.Serialization

/-! What templates become. A text falls into stretches without placeholders and the
placeholders between them, in one way that is the search's: the stretches stay as they are,
each placeholder gives way to the text of its value, and that is not searched again. A tree
keeps its keys, its lists and all that is no text. Nothing of the data matters but what the
placeholders lead to. -/

namespace Quire.Template

/-! ### Stretches -/

/-- A stretch of text in which no placeholder stands. -/
def Clear (cs : List Char) : Prop :=
  ∀ segments, Nameable segments → ¬placeholder segments <:+: cs

theorem clear_nil : Clear [] := by
  intro segments _ inside
  simp [placeholder] at inside

/-- A placeholder has a brace to open it. -/
theorem clear_of_notMem {cs : List Char} (unopened : openBrace ∉ cs) : Clear cs :=
  fun _ _ inside => unopened (inside.subset (by simp [placeholder]))

theorem Clear.tail {c : Char} {cs : List Char} (clear : Clear (c :: cs)) : Clear cs :=
  fun segments nameable inside =>
    clear segments nameable (inside.trans (List.suffix_cons c cs).isInfix)

/-- A stretch goes on to the front where no placeholder starts. -/
theorem Clear.cons {c : Char} {cs rest : List Char} (clear : Clear cs)
    (none : hole? (c :: cs ++ rest) = none) : Clear (c :: cs) := by
  intro segments nameable inside
  rcases List.infix_cons_iff.mp inside with starts | later
  · obtain ⟨after, whole⟩ := starts
    have found : hole? (c :: cs ++ rest) =
        some ((Path.render segments).toList, after ++ rest) :=
      hole?_eq_some_iff.mpr ⟨segments, nameable, rfl, by rw [← whole, List.append_assoc]⟩
    cases none.symm.trans found
  · exact clear segments nameable later

/-- A placeholder that starts in a stretch before a brace ends in it. -/
theorem prefix_of_placeholder {segments : List Segment} (nameable : Nameable segments) {c : Char}
    {cs rest : List Char} (next : ∀ d ∈ rest.head?, d = openBrace)
    (starts : placeholder segments <+: c :: cs ++ rest) : placeholder segments <+: c :: cs := by
  cases rest with
  | nil => simpa using starts
  | cons d rest =>
    obtain rfl : d = openBrace := next d (by simp)
    have upTo : c :: cs ++ [openBrace] <+: c :: cs ++ openBrace :: rest := ⟨rest, by simp⟩
    rcases List.prefix_or_prefix_of_prefix starts upTo with within | beyond
    · rcases List.prefix_concat_iff.mp within with whole | within
      · have ends := congrArg List.getLast? whole
        simp [placeholder, List.getLast?_cons] at ends
        exact absurd ends (by decide)
      · exact within
    · have inside : openBrace ∈ (Path.render segments).toList ++ [closeBrace] := by
        refine ((List.cons_prefix_cons.mp beyond).2).subset ?_
        simp
      rcases List.mem_append.mp inside with inside | inside
      · exact absurd inside (brace_notMem_render nameable).1
      · exact absurd inside (by decide)

theorem cut_nil (count : Nat) : cut count [] = [] := by
  cases count <;> rfl

theorem cut_hole {segments : List Segment} (nameable : Nameable segments) (count : Nat)
    (after : List Char) : cut (count + 1) (placeholder segments ++ after) =
      .hole (Path.render segments).toList :: cut count after := by
  have found : hole? (placeholder segments ++ after) = some ((Path.render segments).toList, after) :=
    hole?_eq_some_iff.mpr ⟨segments, nameable, rfl, rfl⟩
  simp only [placeholder, List.cons_append] at found ⊢
  simp only [cut, found]

theorem cut_literal {c : Char} {rest : List Char} (none : hole? (c :: rest) = none)
    (count : Nat) : cut (count + 1) (c :: rest) = .literal c :: cut count rest := by
  simp only [cut, none]

theorem cut_clear {stretch : List Char} (clear : Clear stretch) {rest : List Char}
    (next : ∀ d ∈ rest.head?, d = openBrace) {count : Nat} (enough : stretch.length ≤ count) :
    cut count (stretch ++ rest) =
      stretch.map .literal ++ cut (count - stretch.length) rest := by
  induction stretch generalizing count with
  | nil => simp
  | cons c cs ih =>
    obtain ⟨count, rfl⟩ : ∃ n, count = n + 1 := ⟨count - 1, by simp at enough; omega⟩
    have none : hole? (c :: (cs ++ rest)) = none := by
      by_contra some
      obtain ⟨⟨path, after⟩, found⟩ := Option.ne_none_iff_exists'.mp some
      obtain ⟨segments, nameable, _, starts⟩ := hole?_eq_some_iff.mp found
      refine clear segments nameable (List.IsPrefix.isInfix ?_)
      exact prefix_of_placeholder nameable next ⟨after, starts.symm⟩
    rw [List.cons_append, cut_literal none, ih clear.tail (by simpa using enough)]
    simp

/-- A text as the stretches before its placeholders, each with the placeholder that ends it,
and the stretch after the last of them. -/
structure Spread where
  blocks : List (List Char × List Segment)
  last : List Char
  nameable : ∀ b ∈ blocks, Nameable b.2
  clear : ∀ b ∈ blocks, Clear b.1
  clear_last : Clear last

namespace Spread

def text (l : Spread) : List Char :=
  (l.blocks.flatMap fun b => b.1 ++ placeholder b.2) ++ l.last

def pieces (l : Spread) : List Piece :=
  (l.blocks.flatMap fun b => b.1.map .literal ++ [.hole (Path.render b.2).toList]) ++
    l.last.map .literal

/-- A stretch and a placeholder in front of all. -/
def cons (stretch : List Char) (segments : List Segment) (clear : Clear stretch)
    (nameable : Nameable segments) (l : Spread) : Spread where
  blocks := (stretch, segments) :: l.blocks
  last := l.last
  nameable := List.forall_mem_cons.mpr ⟨nameable, l.nameable⟩
  clear := List.forall_mem_cons.mpr ⟨clear, l.clear⟩
  clear_last := l.clear_last

def ofClear (stretch : List Char) (clear : Clear stretch) : Spread where
  blocks := []
  last := stretch
  nameable := nofun
  clear := nofun
  clear_last := clear

/-- Every text is spread out as a stretch alone or with a stretch and a placeholder in front. -/
theorem induct {P : Spread → Prop} (ofClear : ∀ stretch clear, P (ofClear stretch clear))
    (cons : ∀ stretch segments clear nameable l, P l → P (cons stretch segments clear nameable l))
    (l : Spread) : P l := by
  obtain ⟨blocks, last, nameable, clear, clear_last⟩ := l
  induction blocks with
  | nil => exact ofClear last clear_last
  | cons b blocks ih =>
    have first := List.forall_mem_cons.mp nameable
    have first' := List.forall_mem_cons.mp clear
    exact cons b.1 b.2 first'.1 first.1 _ (ih first.2 first'.2)

theorem cut_text (l : Spread) {count : Nat} (enough : l.text.length ≤ count) :
    cut count l.text = l.pieces := by
  induction l using induct generalizing count with
  | ofClear stretch clear =>
    have fits : stretch.length ≤ count := by simpa [text, Spread.ofClear] using enough
    have nothing : ∀ d ∈ ([] : List Char).head?, d = openBrace := nofun
    have whole := cut_clear clear nothing fits
    simpa [text, pieces, Spread.ofClear, cut_nil] using whole
  | cons stretch segments clear nameable l ih =>
    simp only [text, Spread.cons, List.flatMap_cons, List.append_assoc, List.length_append]
      at enough
    have room : ∃ n, count - stretch.length = n + 1 ∧ l.text.length ≤ n := by
      refine ⟨count - stretch.length - 1, ?_, ?_⟩
      · simp [placeholder] at enough
        omega
      · simp [placeholder, text] at enough ⊢
        omega
    obtain ⟨n, left, enough'⟩ := room
    have opening : ∀ d ∈ (placeholder segments ++ l.text).head?, d = openBrace := by
      simp [placeholder, eq_comm]
    have fits : stretch.length ≤ count := by omega
    have front := cut_clear clear opening fits
    rw [left, cut_hole nameable, ih enough'] at front
    simpa [text, pieces, Spread.cons] using front

/-- The search finds the placeholders of a text, and all else is literal. -/
theorem pieces_text (l : Spread) : Template.pieces (String.ofList l.text) = l.pieces := by
  rw [Template.pieces, String.toList_ofList]
  exact l.cut_text le_rfl

/-- A character in front of a text, where no placeholder starts with it. -/
theorem exists_push {c : Char} (l : Spread) (none : hole? (c :: l.text) = none) :
    ∃ l' : Spread, l'.text = c :: l.text := by
  cases l using induct with
  | ofClear stretch clear =>
    have starts : hole? (c :: stretch ++ []) = Option.none := by
      simpa [text, Spread.ofClear] using none
    have longer : Clear (c :: stretch) := clear.cons starts
    exact ⟨ofClear (c :: stretch) longer, by simp [text, Spread.ofClear]⟩
  | cons stretch segments clear nameable l _ =>
    have starts : hole? (c :: stretch ++ (placeholder segments ++ l.text)) = Option.none := by
      simpa [text, Spread.cons] using none
    have longer : Clear (c :: stretch) := clear.cons starts
    exact ⟨cons (c :: stretch) segments longer nameable l, by simp [text, Spread.cons]⟩

theorem exists_text (cs : List Char) : ∃ l : Spread, l.text = cs := by
  induction few : cs.length using Nat.strong_induction_on generalizing cs with
  | _ n ih =>
    subst few
    cases cs with
    | nil => exact ⟨ofClear [] clear_nil, rfl⟩
    | cons c rest =>
      cases found : hole? (c :: rest) with
      | none =>
        obtain ⟨l, rfl⟩ := ih rest.length (by simp) rest rfl
        exact exists_push l found
      | some split =>
        obtain ⟨path, after⟩ := split
        obtain ⟨segments, nameable, _, whole⟩ := hole?_eq_some_iff.mp found
        have shorter : after.length < (c :: rest).length := by
          rw [whole]
          simp [placeholder]
          omega
        obtain ⟨l, rfl⟩ := ih after.length shorter after rfl
        exact ⟨cons [] segments clear_nil nameable l, by simp [text, cons, whole]⟩

end Spread

/-! ### What placeholders lead to -/

theorem open_mem_render {segments : List Segment}
    (keys : ∀ s ∈ segments, isKey s.key.toList = true) :
    '[' ∈ (Path.render segments).toList ↔ segments.any (·.expand) = true := by
  have one (s : Segment) (key : isKey s.key.toList = true) :
      '[' ∈ s.render.toList ↔ s.expand = true := by
    have unopened : '[' ∉ s.key.toList := notMem_of_isKey key (by decide)
    rw [Segment.toList_render]
    cases s.expand <;> simp [unopened]
  induction segments with
  | nil => simp [Path.toList_render]
  | cons s rest ih =>
    have first := one s (keys s List.mem_cons_self)
    have others := ih fun t inside => keys t (List.mem_cons_of_mem s inside)
    cases rest with
    | nil => simpa [Path.toList_render] using first
    | cons t rest =>
      rw [Path.toList_render_cons, List.any_cons, Bool.or_eq_true, List.mem_append, List.mem_cons]
      exact or_congr first (by simpa using others)

/-- What is at the end of a placeholder's segments: the list of all that is there if one of
them expands. -/
def found (data : Value) (segments : List Segment) : Option Value :=
  if segments.any (·.expand) then some (.list (Path.collectAt data segments))
  else Value.present (Schema.Pointer.descend (segments.map (·.key)) data)

theorem lookup_render {segments : List Segment} (nameable : Nameable segments) (data : Value) :
    lookup data (Path.render segments) = .ok (found data segments) := by
  have opens := open_mem_render nameable.keys
  unfold lookup found
  cases expands : segments.any (·.expand) with
  | true =>
    rw [expands] at opens
    simp [Path.collect, nameable.parse, opens, bind, Except.bind, pure, Except.pure]
  | false =>
    rw [expands] at opens
    have there : Path.get data (Path.render segments) =
        .ok (Schema.Pointer.descend (segments.map (·.key)) data) := by
      refine Path.get_of_plainKeys (Path.plainKeys_of_parse ?_) data
      rw [nameable.parse, Path.plain_keys expands]
    simp [Path.find, there, opens, bind, Except.bind, pure, Except.pure]

/-- The text of a placeholder's value; where there is none the placeholder stays. -/
def holeText (data : Value) (segments : List Segment) : Except Mishap String :=
  match found data segments with
  | some v => inText v
  | none => .ok (String.ofList (placeholder segments))

theorem fill_hole {segments : List Segment} (nameable : Nameable segments) (data : Value) :
    Piece.fill data (.hole (Path.render segments).toList) = holeText data segments := by
  unfold Piece.fill holeText
  simp only [String.ofList_toList, lookup_render nameable]
  cases found data segments <;> rfl

/-- The stretches unchanged, and after each the text of the value of its placeholder. -/
def Spread.fill (data : Value) (l : Spread) : Except Mishap String := do
  let parts ← l.blocks.mapM fun b => do return String.ofList b.1 ++ (← holeText data b.2)
  return String.join parts ++ String.ofList l.last

/-- The texts of pieces, one after the other. -/
def joined (data : Value) (ps : List Piece) : Except Mishap String := do
  return String.join (← ps.mapM (Piece.fill data))

theorem joined_append (data : Value) (ps qs : List Piece) :
    joined data (ps ++ qs) = (do return (← joined data ps) ++ (← joined data qs)) := by
  simp [joined, List.mapM_append, String.join_append]

theorem joined_literals (data : Value) (cs : List Char) :
    joined data (cs.map .literal) = .ok (String.ofList cs) := by
  have each : (cs.map Piece.literal).mapM (Piece.fill data) = .ok (cs.map String.singleton) := by
    rw [List.mapM_map]
    exact mapM_eq_ok fun _ _ => rfl
  rw [joined, each]
  refine congrArg Except.ok (String.toList_inj.mp ?_)
  simp [String.toList_join, List.flatMap_map]

theorem joined_hole {segments : List Segment} (nameable : Nameable segments) (data : Value) :
    joined data [.hole (Path.render segments).toList] = holeText data segments := by
  simp only [joined, List.mapM_cons, List.mapM_nil, fill_hole nameable]
  cases holeText data segments with
  | error m => rfl
  | ok t => simp [bind, Except.bind, pure, Except.pure, String.join_cons, String.join_nil]

theorem Spread.fill_cons (data : Value) {stretch : List Char} {segments : List Segment}
    (clear : Clear stretch) (nameable : Nameable segments) (l : Spread) :
    (cons stretch segments clear nameable l).fill data =
      (do return String.ofList stretch ++ (← holeText data segments) ++ (← l.fill data)) := by
  simp only [fill, Spread.cons, List.mapM_cons]
  cases holeText data segments with
  | error m => rfl
  | ok t =>
    cases l.blocks.mapM fun b => do return String.ofList b.1 ++ (← holeText data b.2) with
    | error m => rfl
    | ok parts =>
      simp [bind, Except.bind, pure, Except.pure, String.join_cons, String.append_assoc]

theorem Spread.fill_text (data : Value) (l : Spread) :
    fillText data (String.ofList l.text) = l.fill data := by
  have whole : fillText data (String.ofList l.text) = joined data l.pieces := by
    rw [fillText, l.pieces_text, joined]
  rw [whole]
  clear whole
  induction l using induct with
  | ofClear stretch clear =>
    simp [pieces, fill, Spread.ofClear, joined_literals, String.join_nil]
    rfl
  | cons stretch segments clear nameable l ih =>
    have front : (cons stretch segments clear nameable l).pieces =
        (stretch.map .literal ++ [.hole (Path.render segments).toList]) ++ l.pieces := by
      simp [pieces, Spread.cons]
    rw [front, joined_append, joined_append, joined_literals, joined_hole nameable, ih, fill_cons]
    cases holeText data segments with
    | error m => rfl
    | ok t => rfl

/-- Values of a shape for JSON have a text, if their numbers have few enough digits. -/
theorem inText_ok {v : Value} (shaped : v.Shaped Json.depthLimit) (writable : v.isWritable = true) :
    ∃ text, inText v = .ok text := by
  cases v with
  | map es => exact Json.write_shaped rfl shaped writable
  | list xs => exact Json.write_shaped rfl shaped writable
  | cycle mapping => cases shaped.2
  | int n => exact ⟨_, Json.wholeText_eq_ok writable⟩
  | _ => exact ⟨_, rfl⟩

theorem Spread.fill_ok {data : Value} {l : Spread} (shown : ∀ b ∈ l.blocks, ∀ v,
      found data b.2 = some v → v.Shaped Json.depthLimit ∧ v.isWritable = true) :
    ∃ text, l.fill data = .ok text := by
  induction l using induct with
  | ofClear stretch clear => exact ⟨_, rfl⟩
  | cons stretch segments clear nameable l ih =>
    obtain ⟨first, others⟩ := List.forall_mem_cons.mp shown
    have here : ∃ t, holeText data segments = .ok t := by
      unfold holeText
      split
      · next v there => exact inText_ok (first v there).1 (first v there).2
      · exact ⟨_, rfl⟩
    obtain ⟨t, here⟩ := here
    obtain ⟨rest, later⟩ := ih others
    rw [fill_cons, here, later]
    exact ⟨_, rfl⟩

/-! ### Trees -/

/-- What a text in a tree becomes: the value itself where it is a placeholder and nothing
else. -/
def Spread.value (data : Value) (l : Spread) : Except Mishap Value :=
  match l.blocks, l.last with
  | [([], segments)], [] => .ok ((found data segments).getD (.str (String.ofList l.text)))
  | _, _ => do return .str (← l.fill data)

theorem Spread.pieces_eq_hole {l : Spread} {path : List Char} (only : l.pieces = [.hole path]) :
    ∃ segments, l.blocks = [([], segments)] ∧ l.last = [] ∧
      path = (Path.render segments).toList := by
  cases l using induct with
  | ofClear stretch clear => cases stretch <;> simp [pieces, Spread.ofClear] at only
  | cons stretch segments clear nameable l _ =>
    cases stretch with
    | cons c cs => simp [pieces, Spread.cons] at only
    | nil =>
      cases l using induct with
      | ofClear stretch clear =>
        cases stretch <;> simp [pieces, Spread.cons, Spread.ofClear] at only
        exact ⟨segments, rfl, rfl, only.symm⟩
      | cons stretch segments' _ _ l _ => simp [pieces, Spread.cons] at only

theorem Spread.value_text (data : Value) (l : Spread) :
    fillLeaf data (String.ofList l.text) = l.value data := by
  unfold fillLeaf
  rw [l.pieces_text]
  split
  · next path only =>
    obtain ⟨segments, blocks, last, rfl⟩ := pieces_eq_hole only
    have nameable : Nameable segments := l.nameable ([], segments) (by simp [blocks])
    simp only [value, blocks, last, String.ofList_toList, lookup_render nameable]
    rfl
  · next other =>
    have several : l.value data = (do return .str (← l.fill data)) := by
      unfold value
      split
      · next segments blocks last =>
        refine absurd ?_ (other (Path.render segments).toList)
        simp [pieces, blocks, last]
      · rfl
    rw [several, l.fill_text]

/-- Values of a tree that are no text and have nothing below them. -/
def isLeaf : Value → Bool
  | .map _ => false
  | .list _ => false
  | .str _ => false
  | _ => true

mutual

/-- A tree and what it becomes. -/
inductive Filled (data : Value) : Value → Value → Prop
  | text (l : Spread) {w : Value} (made : l.value data = .ok w) :
      Filled data (.str (String.ofList l.text)) w
  | list {xs ys : List Value} (items : FilledItems data xs ys) : Filled data (.list xs) (.list ys)
  | map {es fs : Entries} (fields : FilledFields data es fs) : Filled data (.map es) (.map fs)
  | leaf {v : Value} (leaf : isLeaf v = true) : Filled data v v

inductive FilledItems (data : Value) : List Value → List Value → Prop
  | nil : FilledItems data [] []
  | cons {x y : Value} {xs ys : List Value} (item : Filled data x y)
      (items : FilledItems data xs ys) : FilledItems data (x :: xs) (y :: ys)

inductive FilledFields (data : Value) : Entries → Entries → Prop
  | nil : FilledFields data [] []
  | cons {k v w : Value} {es fs : Entries} (field : Filled data v w)
      (fields : FilledFields data es fs) : FilledFields data ((k, v) :: es) ((k, w) :: fs)

end

mutual

theorem filled_of_fill (data : Value) : ∀ v w : Value, fill data v = .ok w → Filled data v w
  | .str s, w => by
    intro made
    obtain ⟨l, spread⟩ := Spread.exists_text s.toList
    have whole : s = String.ofList l.text := by simp [spread]
    subst whole
    rw [fill, l.value_text] at made
    exact .text l made
  | .list xs, w => by
    intro made
    obtain ⟨ys, items, made⟩ := bind_eq_ok.mp made
    obtain rfl := Except.ok.inj made
    exact .list (filledItems_of_fill data xs ys items)
  | .map es, w => by
    intro made
    obtain ⟨fs, fields, made⟩ := bind_eq_ok.mp made
    obtain rfl := Except.ok.inj made
    exact .map (filledFields_of_fill data es fs fields)
  | .null, w | .bool _, w | .int _, w | .real _, w | .date _, w | .moment _, w | .time _, w
  | .bytes _, w | .tuple _, w | .set _, w | .cycle _, w | .missing _, w => by
    intro made
    obtain rfl := Except.ok.inj made
    exact .leaf rfl

theorem filledItems_of_fill (data : Value) : ∀ xs ys : List Value,
    fillItems data xs = .ok ys → FilledItems data xs ys
  | [], ys => by
    intro made
    obtain rfl := Except.ok.inj made
    exact .nil
  | x :: xs, ys => by
    intro made
    obtain ⟨y, first, made⟩ := bind_eq_ok.mp made
    obtain ⟨rest, others, made⟩ := bind_eq_ok.mp made
    obtain rfl := Except.ok.inj made
    exact .cons (filled_of_fill data x y first) (filledItems_of_fill data xs rest others)

theorem filledFields_of_fill (data : Value) : ∀ es fs : List (Value × Value),
    fillFields data es = .ok fs → FilledFields data es fs
  | [], fs => by
    intro made
    obtain rfl := Except.ok.inj made
    exact .nil
  | (k, v) :: es, fs => by
    intro made
    obtain ⟨w, first, made⟩ := bind_eq_ok.mp made
    obtain ⟨rest, others, made⟩ := bind_eq_ok.mp made
    obtain rfl := Except.ok.inj made
    exact .cons (filled_of_fill data v w first) (filledFields_of_fill data es rest others)

end

mutual

theorem fill_of_filled (data : Value) : ∀ {v w : Value}, Filled data v w → fill data v = .ok w
  | _, _, .text l made => by rw [fill, l.value_text, made]
  | _, _, .list items => by rw [fill, fillItems_of_filled data items]; rfl
  | _, _, .map fields => by rw [fill, fillFields_of_filled data fields]; rfl
  | v, _, .leaf leaf => by cases v <;> first | rfl | cases leaf

theorem fillItems_of_filled (data : Value) : ∀ {xs ys : List Value},
    FilledItems data xs ys → fillItems data xs = .ok ys
  | _, _, .nil => rfl
  | _, _, .cons item items => by
    rw [fillItems, fill_of_filled data item, fillItems_of_filled data items]
    rfl

theorem fillFields_of_filled (data : Value) : ∀ {es fs : Entries},
    FilledFields data es fs → fillFields data es = .ok fs
  | _, _, .nil => rfl
  | _, _, .cons field fields => by
    rw [fillFields, fill_of_filled data field, fillFields_of_filled data fields]
    rfl

end

/-- Filling a tree ends well just when the tree becomes something. -/
theorem fill_eq_ok_iff {data v w : Value} : fill data v = .ok w ↔ Filled data v w :=
  ⟨filled_of_fill data v w, fill_of_filled data⟩

/-! ### What matters of the data -/

/-- The paths of the placeholders in a text. -/
def holes (s : String) : List String :=
  (pieces s).filterMap fun
    | .hole path => some (String.ofList path)
    | .literal _ => none

mutual

/-- The paths of all placeholders in a tree. -/
def paths : Value → List String
  | .map es => pathsOfFields es
  | .list xs => pathsOfItems xs
  | .str s => holes s
  | _ => []

def pathsOfItems : List Value → List String
  | [] => []
  | x :: xs => paths x ++ pathsOfItems xs

def pathsOfFields : List (Value × Value) → List String
  | [] => []
  | (_, v) :: es => paths v ++ pathsOfFields es

end

section Agreement

variable {data data' : Value}

theorem mem_holes {s : String} {path : List Char} (inside : .hole path ∈ pieces s) :
    String.ofList path ∈ holes s := List.mem_filterMap.mpr ⟨_, inside, rfl⟩

theorem mapM_congr {ps : List Piece} (agree : ∀ p ∈ ps, Piece.fill data p = Piece.fill data' p) :
    ps.mapM (Piece.fill data) = ps.mapM (Piece.fill data') := by
  induction ps with
  | nil => rfl
  | cons p ps ih =>
    have first := agree p List.mem_cons_self
    have others := ih fun q inside => agree q (List.mem_cons_of_mem p inside)
    rw [List.mapM_cons, List.mapM_cons, first, others]

theorem fillText_congr {s : String} (agree : ∀ p ∈ holes s, lookup data p = lookup data' p) :
    fillText data s = fillText data' s := by
  have each : (pieces s).mapM (Piece.fill data) = (pieces s).mapM (Piece.fill data') := by
    refine mapM_congr fun piece inside => ?_
    cases piece with
    | literal c => rfl
    | hole path => simp only [Piece.fill, agree _ (mem_holes inside)]
  rw [fillText, each, fillText]

theorem fillLeaf_congr {s : String} (agree : ∀ p ∈ holes s, lookup data p = lookup data' p) :
    fillLeaf data s = fillLeaf data' s := by
  unfold fillLeaf
  split
  · next path only =>
    rw [agree _ (mem_holes (by simp [only]))]
  · rw [fillText_congr agree]

mutual

theorem fill_congr : ∀ v : Value, (∀ p ∈ paths v, lookup data p = lookup data' p) →
    fill data v = fill data' v
  | .str s => fun agree => fillLeaf_congr agree
  | .list xs => fun agree => by simp only [fill, fillItems_congr xs agree]
  | .map es => fun agree => by simp only [fill, fillFields_congr es agree]
  | .null | .bool _ | .int _ | .real _ | .date _ | .moment _ | .time _ | .bytes _ | .tuple _
  | .set _ | .cycle _ | .missing _ => fun _ => rfl

theorem fillItems_congr : ∀ xs : List Value,
    (∀ p ∈ pathsOfItems xs, lookup data p = lookup data' p) →
    fillItems data xs = fillItems data' xs
  | [] => fun _ => rfl
  | x :: xs => fun agree => by
    have first := fill_congr x fun p inside => agree p (List.mem_append_left _ inside)
    have others := fillItems_congr xs fun p inside => agree p (List.mem_append_right _ inside)
    simp only [fillItems, first, others]

theorem fillFields_congr : ∀ es : List (Value × Value),
    (∀ p ∈ pathsOfFields es, lookup data p = lookup data' p) →
    fillFields data es = fillFields data' es
  | [] => fun _ => rfl
  | (k, v) :: es => fun agree => by
    have first := fill_congr v fun p inside => agree p (List.mem_append_left _ inside)
    have others := fillFields_congr es fun p inside => agree p (List.mem_append_right _ inside)
    simp only [fillFields, first, others]

end

theorem render_congr {t : Template} (agree : ∀ p ∈ paths t.body, lookup data p = lookup data' p) :
    render t data = render t data' := by
  unfold render
  rw [fill_congr t.body agree]
  split
  · split
    · next s body =>
      rw [body] at agree
      exact fillText_congr agree
    · rfl
  · rfl

end Agreement

/-- Every text falls into stretches and placeholders. The search finds these placeholders and no
others; their paths read back as the segments they spell, and looking them up does not go wrong.
A text becomes its stretches as they are and the texts of the values between them, and comes to
an end if those have texts. A tree that is not nested too deep is written as what it becomes,
with its keys, the lengths of its lists and all that is no text kept. Data that agree on the
paths of a template are rendered alike. -/
theorem render_fills :
    (∀ s : String, ∃ l : Spread, s = String.ofList l.text) ∧
    (∀ l : Spread, pieces (String.ofList l.text) = l.pieces ∧
      ∀ b ∈ l.blocks, Path.parse (Path.render b.2) = .ok b.2 ∧
        ∀ data, lookup data (Path.render b.2) = .ok (found data b.2)) ∧
    (∀ (path : String) (l : Spread) (data : Value),
      render ⟨path, "text", .str (String.ofList l.text)⟩ data = l.fill data ∧
      ((∀ b ∈ l.blocks, ∀ v, found data b.2 = some v →
        v.Shaped Json.depthLimit ∧ v.isWritable = true) → ∃ text, l.fill data = .ok text)) ∧
    (∀ (t : Template) (data : Value), t.format ≠ "text" → t.body.isDeeper depthLimit = false →
      render t data = fill data t.body >>= fun v => serialize v t.format) ∧
    (∀ data v w : Value, fill data v = .ok w ↔ Filled data v w) ∧
    ∀ (t : Template) (data data' : Value),
      (∀ p ∈ paths t.body, lookup data p = lookup data' p) → render t data = render t data' := by
  refine ⟨fun s => ?_, fun l => ⟨l.pieces_text, fun b inside => ?_⟩,
    fun path l data => ⟨l.fill_text data, Spread.fill_ok⟩, fun t data format shallow => ?_,
    fun _ _ _ => fill_eq_ok_iff, fun t _ _ => render_congr⟩
  · obtain ⟨l, spread⟩ := Spread.exists_text s.toList
    exact ⟨l, by simp [spread]⟩
  · have nameable := l.nameable b inside
    exact ⟨nameable.parse, lookup_render nameable⟩
  · simp only [render, if_neg format, shallow, Bool.false_eq_true, if_false]

/-- A version, and the names of commands. -/
def release : Value :=
  .record [("version", .str "1.0"),
    ("commands", .list [.record [("name", .str "init")], .record [("name", .str "build")]])]

def announcement : Spread where
  blocks := [(['v'], [⟨"version", false⟩]), ([':', ' '], [⟨"commands", true⟩, ⟨"name", false⟩])]
  last := ['.']
  nameable := by decide
  clear := by
    intro b inside
    refine clear_of_notMem ?_
    revert b
    decide
  clear_last := clear_of_notMem (by decide)

theorem render_fills_announcement :
    String.ofList announcement.text = "v\x7bversion\x7d: \x7bcommands[].name\x7d." ∧
    render ⟨"a.txt", "text", .str "v\x7bversion\x7d: \x7bcommands[].name\x7d."⟩ release =
      .ok "v1.0: [\"init\", \"build\"]." := by
  obtain ⟨_, _, texts, _⟩ := render_fills
  have spelled : String.ofList announcement.text =
      "v\x7bversion\x7d: \x7bcommands[].name\x7d." := by
    with_unfolding_all rfl
  have filled : announcement.fill release = .ok "v1.0: [\"init\", \"build\"]." := by
    with_unfolding_all rfl
  have rendered := (texts "a.txt" announcement release).1
  rw [spelled, filled] at rendered
  exact ⟨spelled, rendered⟩

end Quire.Template
