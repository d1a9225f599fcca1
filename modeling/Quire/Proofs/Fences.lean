import Mathlib.Data.List.Basic
import Mathlib.Data.List.TakeWhile
import Quire.Frontmatter

/-! Which texts open with a metadata block, and how they are taken apart. A fence line is a mark
with nothing but spaces and tabs behind it. The text is cut at the first line after the opening
one that is a fence of the same kind, and put back together it is as it was. -/

namespace Quire.Frontmatter

/-- How a line ends that another may follow. -/
inductive LineBreak : List Char → Prop
  | single : LineBreak ['\n']
  | double : LineBreak ['\r', '\n']

/-- Nothing but spaces and tabs. -/
def Blanks (cs : List Char) : Prop := ∀ c ∈ cs, c = ' ' ∨ c = '\t'

/-- A whole line that is a fence. -/
inductive FenceLine (fence : Fence) : List Char → Prop
  | mk {blanks ending : List Char} (blank : Blanks blanks) (ends : LineBreak ending) :
    FenceLine fence (fence.mark ++ blanks ++ ending)

/-- A line that closes a block, seen together with what comes after it: the last line of a text
needs no break. -/
inductive ClosingLine (fence : Fence) : List Char → List Char → Prop
  | whole {line after : List Char} (fenced : FenceLine fence line) : ClosingLine fence line after
  | last {blanks : List Char} (blank : Blanks blanks) : ClosingLine fence (fence.mark ++ blanks) []

/-- What a line may start after: nothing, or a line feed. -/
def LineStart (before : List Char) : Prop := before = [] ∨ ∃ others, before = others ++ ['\n']

/-- None of the lines is a fence. -/
def Unfenced (fence : Fence) (block : List Char) : Prop :=
  ∀ before line after, block = before ++ line ++ after → LineStart before → ¬FenceLine fence line

/-- A text put together from a byte order mark or none, the opening line, a block of whole lines,
a closing line and a body. -/
structure Framed (content : List Char) (fence : Fence) (block body : List Char)
    (mark opening closing : List Char) : Prop where
  whole : content = mark ++ opening ++ block ++ closing ++ body
  marked : mark = [] ∨ mark = ['\ufeff']
  opens : FenceLine fence opening
  lines : LineStart block
  closes : ClosingLine fence closing body

variable {fence : Fence} {cs rest : List Char}

theorem dropWhile_blanks {blanks : List Char} (blank : Blanks blanks)
    (shown : ∀ c ∈ rest.head?, isBlank c = false) :
    (blanks ++ rest).dropWhile isBlank = rest := by
  rw [List.dropWhile_append_of_pos]
  · cases rest with
    | nil => rfl
    | cons c rest => simp [shown c rfl]
  · intro c inside
    rcases blank c inside with rfl | rfl <;> rfl

theorem takeWhile_blanks (cs : List Char) : Blanks (cs.takeWhile isBlank) := by
  intro c inside
  simpa [isBlank] using List.mem_takeWhile_imp inside

theorem afterBreak_eq_some :
    afterBreak cs = some rest ↔ ∃ ending, LineBreak ending ∧ cs = ending ++ rest := by
  constructor
  · unfold afterBreak
    split
    · rintro ⟨⟩
      exact ⟨_, .single, rfl⟩
    · rintro ⟨⟩
      exact ⟨_, .double, rfl⟩
    · exact nofun
  · rintro ⟨ending, ends, rfl⟩
    cases ends <;> rfl

theorem head?_ending {ending : List Char} (ends : LineBreak ending) (rest : List Char) :
    ∀ c ∈ (ending ++ rest).head?, isBlank c = false := by
  cases ends <;> simp [isBlank]

/-- A mark at the start of a text is that of a fence line when a break follows the blanks. -/
theorem afterBreak_blanks :
    afterBreak (cs.dropWhile isBlank) = some rest ↔
      ∃ line, FenceLine fence line ∧ fence.mark ++ cs = line ++ rest := by
  rw [afterBreak_eq_some]
  constructor
  · rintro ⟨ending, ends, after⟩
    refine ⟨_, .mk (takeWhile_blanks cs) ends, ?_⟩
    rw [List.append_assoc, List.append_assoc, ← after, List.takeWhile_append_dropWhile]
  · rintro ⟨line, ⟨blank, ends⟩, same⟩
    refine ⟨_, ends, ?_⟩
    rw [List.append_assoc, List.append_assoc, List.append_cancel_left_eq] at same
    rw [same, dropWhile_blanks blank (head?_ending ends rest)]

theorem opening_mark (fence : Fence) (cs : List Char) :
    opening (fence.mark ++ cs) = (afterBreak (cs.dropWhile isBlank)).map (fence, ·) := by
  cases fence <;> rfl

theorem opening_eq_some :
    opening cs = some (fence, rest) ↔ ∃ line, FenceLine fence line ∧ cs = line ++ rest := by
  constructor
  · intro opened
    obtain ⟨others, marked⟩ : ∃ others, cs = fence.mark ++ others := by
      unfold opening at opened
      split at opened
      · obtain ⟨_, _, same⟩ := Option.map_eq_some_iff.mp opened
        cases same
        exact ⟨_, rfl⟩
      · obtain ⟨_, _, same⟩ := Option.map_eq_some_iff.mp opened
        cases same
        exact ⟨_, rfl⟩
      · cases opened
    rw [marked, opening_mark] at opened
    obtain ⟨_, broken, same⟩ := Option.map_eq_some_iff.mp opened
    cases same
    rw [marked]
    exact afterBreak_blanks.mp broken
  · rintro ⟨line, ⟨blank, ends⟩, rfl⟩
    rw [List.append_assoc, List.append_assoc, opening_mark, dropWhile_blanks blank
      (head?_ending ends rest), afterBreak_eq_some.mpr ⟨_, ends, rfl⟩]
    rfl

theorem opening_line {line : List Char} (opens : FenceLine fence line) (rest : List Char) :
    opening (line ++ rest) = some (fence, rest) := opening_eq_some.mpr ⟨line, opens, rfl⟩

theorem closing_mark (fence : Fence) (cs : List Char) :
    closing fence (fence.mark ++ cs) =
      if cs.dropWhile isBlank = [] then some [] else afterBreak (cs.dropWhile isBlank) := by
  have marked : fence.mark.isPrefixOf (fence.mark ++ cs) = true := by simp
  rw [closing, if_pos marked, List.drop_left]
  split
  · next none => rw [if_pos none]
  · next some => rw [if_neg some]

theorem closing_eq_some :
    closing fence cs = some rest ↔ ∃ line, ClosingLine fence line rest ∧ cs = line ++ rest := by
  constructor
  · intro closed
    obtain ⟨others, marked⟩ : ∃ others, fence.mark ++ others = cs := by
      unfold closing at closed
      split at closed
      · next marked => exact List.isPrefixOf_iff_prefix.mp marked
      · cases closed
    rw [← marked, closing_mark] at closed
    rw [← marked]
    split at closed
    · next none =>
      obtain rfl := Option.some.inj closed
      have blank := takeWhile_blanks others
      rw [← List.takeWhile_append_dropWhile (p := isBlank) (l := others), none, List.append_nil]
      exact ⟨_, .last blank, (List.append_nil _).symm⟩
    · obtain ⟨line, fenced, whole⟩ := afterBreak_blanks.mp closed
      exact ⟨line, .whole fenced, whole⟩
  · rintro ⟨line, closes, rfl⟩
    cases closes with
    | whole fenced =>
      obtain @⟨blanks, ending, blank, ends⟩ := fenced
      have some : ending ++ rest ≠ [] := by cases ends <;> simp
      rw [List.append_assoc, List.append_assoc, closing_mark,
        dropWhile_blanks blank (head?_ending ends rest), if_neg some]
      exact afterBreak_eq_some.mpr ⟨_, ends, rfl⟩
    | last blank =>
      have none : (_ ++ []).dropWhile isBlank = [] := dropWhile_blanks blank nofun
      rw [List.append_nil] at none ⊢
      rw [closing_mark, if_pos none]

/-! ### The first closing line -/

/-- A place in a text where a closing line starts. `atStart` says whether the text itself starts a
line. -/
structure ClosesAt (fence : Fence) (atStart : Bool) (cs before line after : List Char) : Prop where
  whole : cs = before ++ line ++ after
  starts : before = [] ∧ atStart = true ∨ ∃ others, before = others ++ ['\n']
  closes : ClosingLine fence line after

variable {atStart : Bool} {before line after block body : List Char} {c : Char}

theorem ClosingLine.ne_nil (closes : ClosingLine fence line after) : line ≠ [] := by
  obtain ⟨⟨_, _⟩⟩ | ⟨_⟩ := closes <;> cases fence <;> simp [Fence.mark]

/-- Past a character, a line starts where it did before, and the text does if a line feed was
passed. -/
theorem closesAt_cons :
    ClosesAt fence atStart (c :: cs) (c :: before) line after ↔
      ClosesAt fence (c = '\n') cs before line after := by
  constructor
  · rintro ⟨whole, starts, closes⟩
    refine ⟨(List.cons.inj whole).2, ?_, closes⟩
    rcases starts with ⟨none, _⟩ | ⟨others, same⟩
    · cases none
    · cases others with
      | nil => exact .inl ⟨(List.cons.inj same).2, decide_eq_true (List.cons.inj same).1⟩
      | cons d others => exact .inr ⟨others, (List.cons.inj same).2⟩
  · rintro ⟨whole, starts, closes⟩
    refine ⟨congrArg (c :: ·) whole, .inr ?_, closes⟩
    rcases starts with ⟨rfl, feed⟩ | ⟨others, rfl⟩
    · exact ⟨[], congrArg ([·]) (of_decide_eq_true feed)⟩
    · exact ⟨c :: others, rfl⟩

/-- Whether the text at hand starts with a closing line is what a cut looks at first. -/
theorem closesAt_nil :
    ClosesAt fence atStart cs [] line after ↔
      (if atStart then closing fence cs else none) = some after ∧
        ClosingLine fence line after ∧ cs = line ++ after := by
  constructor
  · rintro ⟨whole, ⟨_, rfl⟩ | ⟨others, same⟩, closes⟩
    · exact ⟨closing_eq_some.mpr ⟨line, closes, whole⟩, closes, whole⟩
    · simp at same
  · rintro ⟨closed, closes, whole⟩
    split at closed
    · next start => exact ⟨whole, .inl ⟨rfl, start⟩, closes⟩
    · cases closed

theorem cut_acc (acc : List Char) :
    cut fence atStart acc cs =
      (cut fence atStart [] cs).map fun p => (acc.reverse ++ p.1, p.2) := by
  induction cs generalizing atStart acc with
  | nil => rfl
  | cons c cs ih =>
    unfold cut
    split
    · simp
    · rw [ih, ih [c]]
      simp [Option.map_map, Function.comp_def]

/-- Where a text is cut, there is the first of the closing lines. -/
theorem cut_eq_some (found : cut fence atStart [] cs = some (block, body)) :
    (∃ line, ClosesAt fence atStart cs block line body) ∧
      ∀ before line after, ClosesAt fence atStart cs before line after →
        block.length ≤ before.length := by
  induction cs generalizing atStart block with
  | nil => cases found
  | cons c cs ih =>
    unfold cut at found
    split at found
    · next here =>
      cases found
      refine ⟨?_, fun _ _ _ _ => Nat.zero_le _⟩
      have start : atStart = true := by
        cases atStart with
        | true => rfl
        | false => cases here
      obtain ⟨line, closes, whole⟩ := closing_eq_some.mp ((if_pos start).symm.trans here)
      exact ⟨line, whole, .inl ⟨rfl, start⟩, closes⟩
    · next here =>
      rw [cut_acc] at found
      obtain ⟨⟨block', body'⟩, later, same⟩ := Option.map_eq_some_iff.mp found
      cases same
      obtain ⟨⟨line, closes⟩, first⟩ := ih later
      refine ⟨⟨line, closesAt_cons.mpr closes⟩, fun before line' after closes' => ?_⟩
      cases before with
      | nil =>
        rw [(closesAt_nil.mp closes').1] at here
        cases here
      | cons d before =>
        obtain rfl := (List.cons.inj closes'.whole).1
        exact Nat.succ_le_succ (first before line' after (closesAt_cons.mp closes'))

theorem cut_eq_none (missed : cut fence atStart [] cs = none) :
    ¬ClosesAt fence atStart cs before line after := by
  induction cs generalizing atStart before with
  | nil =>
    intro closes
    have none := closes.whole
    simp only [List.nil_eq, List.append_eq_nil_iff] at none
    exact closes.closes.ne_nil none.1.2
  | cons c cs ih =>
    intro closes
    unfold cut at missed
    split at missed
    · cases missed
    · next here =>
      rw [cut_acc, Option.map_eq_none_iff] at missed
      cases before with
      | nil =>
        rw [(closesAt_nil.mp closes).1] at here
        cases here
      | cons d before =>
        obtain rfl := (List.cons.inj closes.whole).1
        exact ih missed (closesAt_cons.mp closes)

/-! ### Taken apart and put together -/

theorem closesAt_true :
    ClosesAt fence true cs before line after ↔
      cs = before ++ line ++ after ∧ LineStart before ∧ ClosingLine fence line after := by
  constructor
  · rintro ⟨whole, starts, closes⟩
    exact ⟨whole, starts.imp_left And.left, closes⟩
  · rintro ⟨whole, starts, closes⟩
    exact ⟨whole, starts.imp_left fun none => ⟨none, rfl⟩, closes⟩

/-- The line feed of a fence line is its last character. -/
theorem FenceLine.exists_feed (fenced : FenceLine fence line) :
    ∃ shown, line = shown ++ ['\n'] ∧ '\n' ∉ shown := by
  obtain @⟨blanks, ending, blank, ends⟩ := fenced
  have marked : '\n' ∉ fence.mark := by cases fence <;> decide
  have blank' : '\n' ∉ blanks := fun inside => by
    rcases blank _ inside with same | same <;> cases same
  cases ends with
  | single => exact ⟨fence.mark ++ blanks, rfl, by simp [marked, blank']⟩
  | double => exact ⟨fence.mark ++ blanks ++ ['\r'], by simp, by simp [marked, blank']⟩

/-- A closing line that starts before the end of a stretch with a line feed in it lies within the
stretch, and is a fence line there. -/
theorem ClosingLine.within (closes : ClosingLine fence line after) {stretch others : List Char}
    (whole : stretch ++ others = line ++ after) (feed : '\n' ∈ stretch) :
    FenceLine fence line ∧ ∃ more, stretch = line ++ more := by
  cases closes with
  | whole fenced =>
    refine ⟨fenced, ?_⟩
    obtain ⟨shown, rfl, none⟩ := fenced.exists_feed
    rw [List.append_assoc] at whole
    rcases List.append_eq_append_iff.mp whole with ⟨short, rfl, _⟩ | ⟨more, rfl, rest⟩
    · exact absurd (List.mem_append_left short feed) none
    · cases more with
      | nil => exact absurd (by simpa using feed) none
      | cons d more =>
        obtain rfl := (List.cons.inj rest).1
        exact ⟨more, by simp⟩
  | @last blanks blank =>
    have marked : '\n' ∉ fence.mark := by cases fence <;> decide
    have inside : '\n' ∈ fence.mark ++ blanks := by
      rw [← List.append_nil (fence.mark ++ blanks), ← whole]
      exact List.mem_append_left others feed
    rcases List.mem_append.mp inside with there | there
    · exact absurd there marked
    · rcases blank _ there with same | same <;> cases same

/-- A block of whole lines without a fence is cut off at the fence line behind it. -/
theorem cut_block (lines : LineStart block) (unfenced : Unfenced fence block)
    (fenced : FenceLine fence line) :
    cut fence true [] (block ++ line ++ body) = some (block, body) := by
  have here : ClosesAt fence true (block ++ line ++ body) block line body :=
    closesAt_true.mpr ⟨rfl, lines, .whole fenced⟩
  cases found : cut fence true [] (block ++ line ++ body) with
  | none => exact absurd here (cut_eq_none found)
  | some p =>
    obtain ⟨block', body'⟩ := p
    obtain ⟨⟨line', cuts⟩, first⟩ := cut_eq_some found
    obtain ⟨whole, starts, closes⟩ := closesAt_true.mp cuts
    have early : block' <+: block :=
      List.prefix_of_prefix_length_le ⟨line' ++ body', by rw [whole, List.append_assoc]⟩
        ⟨line ++ body, (List.append_assoc ..).symm⟩ (first block line body here)
    obtain ⟨stretch, rfl⟩ := early
    rw [List.append_assoc, List.append_assoc, List.append_assoc,
      List.append_cancel_left_eq] at whole
    cases stretch with
    | nil =>
      have same := closing_eq_some.mpr ⟨line', closes, whole⟩
      rw [List.nil_append, closing_eq_some.mpr ⟨line, .whole fenced, rfl⟩] at same
      obtain rfl := Option.some.inj same
      simp
    | cons c stretch =>
      -- a cut inside the block would be at a fence line of it
      have feed : '\n' ∈ c :: stretch := by
        rcases lines with none | ⟨others, ends⟩
        · simp at none
        · have last := congrArg List.getLast? ends
          rw [List.getLast?_append_of_ne_nil _ (List.cons_ne_nil c stretch),
            List.getLast?_concat] at last
          exact List.mem_of_getLast? last
      obtain ⟨fenced', more, inside⟩ := closes.within whole feed
      exact absurd fenced' (unfenced block' line' more (by rw [inside, List.append_assoc]) starts)

theorem withoutMark_eq (content : List Char) : ∃ mark, content = mark ++ withoutMark content ∧
    (mark = [] ∨ mark = ['\ufeff']) := by
  unfold withoutMark
  split
  · exact ⟨['\ufeff'], rfl, .inr rfl⟩
  · exact ⟨[], rfl, .inl rfl⟩

theorem withoutMark_framed {mark : List Char} (marked : mark = [] ∨ mark = ['\ufeff'])
    (opens : FenceLine fence line) (rest : List Char) :
    withoutMark (mark ++ (line ++ rest)) = line ++ rest := by
  obtain ⟨blank, ends⟩ := opens
  rcases marked with rfl | rfl
  · cases fence <;> rfl
  · rfl

theorem split_eq_some {content : List Char} {p : Parts} :
    split content = some p ↔ ∃ rest, opening (withoutMark content) = some (p.fence, rest) ∧
      cut p.fence true [] rest = some (p.block, p.body) := by
  obtain ⟨fence, block, body⟩ := p
  constructor
  · intro found
    obtain ⟨⟨fence', rest⟩, opened, found⟩ := Option.bind_eq_some_iff.mp found
    obtain ⟨⟨block', body'⟩, cuts, same⟩ := Option.bind_eq_some_iff.mp found
    cases same
    exact ⟨rest, opened, cuts⟩
  · rintro ⟨rest, opened, cuts⟩
    exact Option.bind_eq_some_iff.mpr ⟨_, opened, Option.bind_eq_some_iff.mpr ⟨_, cuts, rfl⟩⟩

/-- A text is taken apart just when it can be put together from an opening line, whole lines, a
closing line of the same kind and a body, after a byte order mark or none. It is cut at the first
line that closes, so that no line of the block is a fence, and nothing is lost. What is put
together from a block of whole lines without a fence and any body comes apart into these. -/
theorem split_framed :
    (∀ content, split content = none ↔
      ∀ fence block body mark opening closing,
        ¬Framed content fence block body mark opening closing) ∧
    (∀ content p, split content = some p → ∃ mark opening closing,
      Framed content p.fence p.block p.body mark opening closing ∧ Unfenced p.fence p.block ∧
      ∀ before line after, p.block ++ closing ++ p.body = before ++ line ++ after →
        LineStart before → ClosingLine p.fence line after → p.block.length ≤ before.length) ∧
    ∀ fence block body, LineStart block → Unfenced fence block →
      split (fence.mark ++ '\n' :: (block ++ (fence.mark ++ '\n' :: body))) =
        some ⟨fence, block, body⟩ := by
  have taken (content p) (found : split content = some p) : ∃ mark opening closing,
      Framed content p.fence p.block p.body mark opening closing ∧ Unfenced p.fence p.block ∧
      ∀ before line after, p.block ++ closing ++ p.body = before ++ line ++ after →
        LineStart before → ClosingLine p.fence line after → p.block.length ≤ before.length := by
    obtain ⟨rest, opened, cuts⟩ := split_eq_some.mp found
    obtain ⟨mark, whole, marked⟩ := withoutMark_eq content
    obtain ⟨line, opens, unmarked⟩ := opening_eq_some.mp opened
    obtain ⟨⟨closing, here⟩, first⟩ := cut_eq_some cuts
    obtain ⟨rfl, lines, closes⟩ := closesAt_true.mp here
    refine ⟨mark, line, closing, ⟨?_, marked, opens, lines, closes⟩, ?_, ?_⟩
    · rw [whole, unmarked]
      simp
    · intro before line' after inside starts fenced
      have earlier := first before line' (after ++ closing ++ p.body)
        (closesAt_true.mpr ⟨by rw [inside]; simp, starts, .whole fenced⟩)
      have some := List.length_pos_iff.mpr (.whole fenced : ClosingLine p.fence line' []).ne_nil
      rw [inside] at earlier
      simp only [List.length_append] at earlier
      omega
    · exact fun before line' after same starts closes' =>
        first before line' after (closesAt_true.mpr ⟨same, starts, closes'⟩)
  refine ⟨fun content => ⟨?_, ?_⟩, taken, ?_⟩
  · rintro missed fence block body mark line closing ⟨rfl, marked, opens, lines, closes⟩
    simp only [List.append_assoc] at missed
    rw [split, withoutMark_framed marked opens, opening_line opens] at missed
    have here : ClosesAt fence true (block ++ (closing ++ body)) block closing body :=
      closesAt_true.mpr ⟨by simp, lines, closes⟩
    cases cuts : cut fence true [] (block ++ (closing ++ body)) with
    | none => exact cut_eq_none cuts here
    | some p => simp [cuts] at missed
  · intro none
    cases found : split content with
    | none => rfl
    | some p =>
      obtain ⟨mark, opening, closing, framed, _⟩ := taken content p found
      exact absurd framed (none _ _ _ _ _ _)
  · intro fence block body lines unfenced
    have bare : FenceLine fence (fence.mark ++ ['\n']) := by
      simpa using (.mk nofun .single : FenceLine fence (fence.mark ++ [] ++ ['\n']))
    refine split_eq_some.mpr ⟨block ++ (fence.mark ++ '\n' :: body), ?_, ?_⟩
    · have unmarked := withoutMark_framed (.inl rfl) bare (block ++ (fence.mark ++ '\n' :: body))
      simpa using (congrArg opening unmarked).trans (opening_line bare _)
    · have cuts :
          cut fence true [] (block ++ (fence.mark ++ ['\n']) ++ body) = some (block, body) :=
        cut_block lines unfenced bare
      simpa using cuts

/-- A fence of the other kind is a line like others, and so is a mark with text behind it. -/
theorem split_framed_nested :
    split "\ufeff+++ \r\n---\n+++b\n+++\t".toList =
      some ⟨.pluses, "---\n+++b\n".toList, []⟩ ∧
    LineStart "---\n+++b\n".toList ∧ Unfenced .pluses "---\n+++b\n".toList ∧
    split "+++\n---\n+++b\n+++\n+++\n".toList =
      some ⟨.pluses, "---\n+++b\n".toList, "+++\n".toList⟩ := by
  have found : split "\ufeff+++ \r\n---\n+++b\n+++\t".toList =
      some ⟨.pluses, "---\n+++b\n".toList, []⟩ := by rfl
  obtain ⟨_, taken, together⟩ := split_framed
  obtain ⟨mark, opening, closing, framed, unfenced, _⟩ := taken _ _ found
  exact ⟨found, framed.lines, unfenced,
    together .pluses "---\n+++b\n".toList "+++\n".toList framed.lines unfenced⟩

end Quire.Frontmatter
