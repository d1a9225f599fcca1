import Quire.Proofs.Passage
import Quire.Toml.Reader
import Mathlib.Data.List.Infix

/-! What each reader of TOML leaves is the end of the text it is given. So trouble that is not bad
form has its cause in the text: a whole number with too many digits, or brackets without end. -/

namespace Quire.Toml

def isOpening (c : Char) : Bool := c = '[' || c = '\x7b'

/-- Trouble that may be met in a text inside arrays and tables of so much weight. -/
inductive Ahead (nesting : Nat) (cs : List Char) : Trouble → Prop
  | malformed : Ahead nesting cs .malformed
  | digits {run : List Char} (part : run <:+: cs) (marks : ∀ c ∈ run, c.isDigit = true ∨ c = '_')
      (long : Numeral.digitLimit < run.countP Char.isDigit) :
      Ahead nesting cs (.tooManyDigits (run.countP Char.isDigit))
  | brackets (many : nestingLimit ≤ nesting + 3 * cs.countP isOpening) : Ahead nesting cs .tooDeep

theorem Ahead.sooner {nesting : Nat} {cs rest : List Char} {e : Trouble} (left : rest <:+ cs)
    (ahead : Ahead nesting rest e) : Ahead nesting cs e := by
  cases ahead with
  | malformed => exact .malformed
  | digits part marks long => exact .digits (part.trans left.isInfix) marks long
  | brackets many =>
    have fewer := left.sublist.countP_le (p := isOpening)
    exact .brackets (by omega)

/-- Inside one more array or table, behind its bracket. -/
theorem Ahead.opened {nesting weight : Nat} {c : Char} {rest : List Char} {e : Trouble}
    (opens : isOpening c = true) (bound : weight ≤ 3) (ahead : Ahead (nesting + weight) rest e) :
    Ahead nesting (c :: rest) e := by
  cases ahead with
  | malformed => exact .malformed
  | digits part marks long =>
    exact .digits (part.trans (List.suffix_cons c rest).isInfix) marks long
  | brackets many =>
    refine .brackets ?_
    rw [List.countP_cons_of_pos opens]
    omega

/-- Reading inside arrays and tables of so much weight. -/
def inside (nesting : Nat) : Passage (List Char) Trouble where
  ahead cs rest := rest <:+ cs
  meets := Ahead nesting
  refl _ := List.suffix_rfl
  trans first second := second.trans first
  sooner := Ahead.sooner

/-- What a reader answers with beside a result. -/
abbrev Leaves {α : Type} (nesting : Nat) (cs : List Char) (x : Scan (α × List Char)) : Prop :=
  (inside nesting).Through Prod.snd cs x

variable {α : Type} {nesting : Nat} {cs : List Char}

theorem Leaves.refuse : Leaves nesting cs (refuse : Scan (α × List Char)) := .error .malformed

/-- A reader that goes on behind a character. -/
theorem Leaves.behind {c : Char} {x : Scan (α × List Char)} (leaves : Leaves nesting cs x) :
    Leaves nesting (c :: cs) x := leaves.from (List.suffix_cons c cs)

/-! ### Gaps -/

theorem skipBlanks_suffix (cs : List Char) : skipBlanks cs <:+ cs := List.dropWhile_suffix _

theorem skipBlanks_cons {c : Char} {rest : List Char} (skipped : skipBlanks cs = c :: rest) :
    rest <:+ cs := by
  have blanks := skipBlanks_suffix cs
  rw [skipped] at blanks
  exact (List.suffix_cons c rest).trans blanks

theorem skipBlanksAndLines_suffix (cs : List Char) : skipBlanksAndLines cs <:+ cs :=
  List.dropWhile_suffix _

theorem skipComment_through : (inside nesting).Through id cs (skipComment cs) := by
  unfold skipComment
  split
  · next rest =>
    split
    · exact .error .malformed
    · exact .ok ((List.dropWhile_suffix _).trans (List.suffix_cons _ rest))
  · exact .ok List.suffix_rfl

theorem skipGaps_through (steps : Nat) : (inside nesting).Through id cs (skipGaps steps cs) := by
  induction steps generalizing cs with
  | zero => exact .ok List.suffix_rfl
  | succ steps ih =>
    have first := (skipComment_through.from (skipBlanksAndLines_suffix cs) :
      (inside nesting).Through id cs _)
    refine first.bind fun next came => ?_
    split
    · next same =>
      have left : next <:+ cs := first.found next came
      exact .ok (left.eq_of_length same ▸ List.suffix_rfl)
    · exact ih

/-! ### Strings and keys -/

theorem hexEscape_leaves (width : Nat) : Leaves nesting cs (hexEscape width cs) := by
  unfold hexEscape
  dsimp only
  split
  · exact .refuse
  · split
    · exact .ok (List.drop_suffix width cs)
    · exact .refuse

theorem readEscape_leaves (multiline : Bool) : Leaves nesting cs (readEscape multiline cs) := by
  unfold readEscape
  split
  · exact .refuse
  · next c rest =>
    split
    · exact .ok ((skipBlanksAndLines_suffix rest).trans (List.suffix_cons c rest))
    · split
      · split
        · exact .ok List.nil_suffix
        · next later same =>
          have line := (skipBlanks_cons same).trans (List.suffix_cons c rest)
          exact .ok ((skipBlanksAndLines_suffix later).trans line)
        · exact .refuse
      · split
        · exact .behind ((hexEscape_leaves 4).bind fun _ _ => .ok List.suffix_rfl)
        · split
          · exact .behind ((hexEscape_leaves 8).bind fun _ _ => .ok List.suffix_rfl)
          · split
            · exact .ok (List.suffix_cons c rest)
            · exact .refuse

theorem basicBody_leaves (multiline : Bool) (steps : Nat) (acc : List Char) :
    Leaves nesting cs (basicBody multiline steps acc cs) := by
  induction steps generalizing acc cs with
  | zero => exact .refuse
  | succ steps ih =>
    unfold basicBody
    split
    · exact .refuse
    · next rest =>
      split
      · exact .ok (List.suffix_cons _ rest)
      · split
        · next later => exact .ok ⟨['"', '"', '"'], rfl⟩
        · exact .behind (ih _)
    · exact .behind ((readEscape_leaves multiline).bind fun _ _ => ih _)
    · split
      · exact .refuse
      · exact .behind (ih _)

theorem literalBody_leaves (multiline : Bool) (acc cs : List Char) :
    Leaves nesting cs (literalBody multiline acc cs) := by
  induction cs generalizing acc with
  | nil => exact .refuse
  | cons c rest ih =>
    unfold literalBody
    split
    · exact .ok (List.suffix_cons c rest)
    · split
      · exact .ok ((List.drop_suffix 2 rest).trans (List.suffix_cons c rest))
      · split
        · exact .refuse
        · exact .behind (ih _)

theorem extraQuotes_suffix (quote : Char) (acc cs : List Char) :
    (extraQuotes quote acc cs).2 <:+ cs := by
  unfold extraQuotes
  split
  · next a b rest =>
    split
    · exact ⟨[a, b], rfl⟩
    · split
      · exact List.suffix_cons a _
      · exact List.suffix_rfl
  · split
    · exact List.nil_suffix
    · exact List.suffix_rfl
  · exact List.suffix_rfl

theorem dropFirstBreak_suffix (cs : List Char) : dropFirstBreak cs <:+ cs := by
  unfold dropFirstBreak
  split
  · next rest => exact List.suffix_cons _ rest
  · exact List.suffix_rfl

theorem readLineString_leaves : Leaves nesting cs (readLineString cs) := by
  unfold readLineString
  split
  · exact .behind ((basicBody_leaves false _ _).bind fun _ _ => .ok List.suffix_rfl)
  · exact .behind ((literalBody_leaves false _ _).bind fun _ _ => .ok List.suffix_rfl)
  · exact .refuse

theorem readString_leaves : Leaves nesting cs (readString cs) := by
  unfold readString
  split
  · next rest =>
    refine .behind (.behind (.behind (.from ?_ (dropFirstBreak_suffix rest))))
    exact (basicBody_leaves true _ []).bind fun _ _ => .ok (extraQuotes_suffix '"' _ _)
  · next rest =>
    refine .behind (.behind (.behind (.from ?_ (dropFirstBreak_suffix rest))))
    exact (literalBody_leaves true [] _).bind fun _ _ => .ok (extraQuotes_suffix '\'' _ _)
  · exact readLineString_leaves

theorem readKeyPart_leaves : Leaves nesting cs (readKeyPart cs) := by
  unfold readKeyPart
  split
  · exact .ok (List.dropWhile_suffix _)
  · exact readLineString_leaves

theorem readKeyParts_leaves (steps : Nat) (acc : List String) :
    Leaves nesting cs (readKeyParts steps acc cs) := by
  induction steps generalizing acc cs with
  | zero => exact .refuse
  | succ steps ih =>
    refine readKeyPart_leaves.bind fun found _ => ?_
    dsimp only
    split
    · next rest same =>
      exact (ih _).from ((skipBlanks_suffix rest).trans (skipBlanks_cons same))
    · exact .ok (skipBlanks_suffix found.2)

theorem readKey_leaves : Leaves nesting cs (readKey cs) := readKeyParts_leaves _ []

/-! ### Numbers -/

/-- Digits at the front of a text, with underscores among them, and what follows. -/
def Grouped (isDigit : Char → Bool) (cs : List Char) (found : List Char × List Char) : Prop :=
  ∃ run, cs = run ++ found.2 ∧ (∀ c ∈ run, isDigit c = true ∨ c = '_') ∧
    found.1 = run.filter isDigit

theorem Grouped.suffix {isDigit : Char → Bool} {found : List Char × List Char}
    (grouped : Grouped isDigit cs found) : found.2 <:+ cs := by
  obtain ⟨run, whole, _⟩ := grouped
  exact ⟨run, whole.symm⟩

theorem groupedDigits_more {isDigit : Char → Bool} (mark : isDigit '_' = false)
    (acc cs : List Char) : ∃ run, cs = run ++ (groupedDigits.more isDigit acc cs).2 ∧
      (∀ c ∈ run, isDigit c = true ∨ c = '_') ∧
      (groupedDigits.more isDigit acc cs).1 = acc.reverse ++ run.filter isDigit := by
  fun_induction groupedDigits.more isDigit acc cs with
  | case1 acc c rest digit ih =>
    obtain ⟨run, whole, marks, digits⟩ := ih
    refine ⟨'_' :: c :: run, by rw [List.cons_append, List.cons_append, ← whole], ?_, ?_⟩
    · exact List.forall_mem_cons.mpr ⟨.inr rfl, List.forall_mem_cons.mpr ⟨.inl digit, marks⟩⟩
    · rw [digits]
      simp [mark, digit]
  | case2 => exact ⟨[], rfl, nofun, by simp⟩
  | case3 acc c rest _ digit ih =>
    obtain ⟨run, whole, marks, digits⟩ := ih
    refine ⟨c :: run, by rw [List.cons_append, ← whole], ?_, ?_⟩
    · exact List.forall_mem_cons.mpr ⟨.inl digit, marks⟩
    · rw [digits]
      simp [digit]
  | case4 => exact ⟨[], rfl, nofun, by simp⟩
  | case5 => exact ⟨[], rfl, nofun, by simp⟩

theorem groupedDigits_grouped (isDigit : Char → Bool) (mark : isDigit '_' = false)
    (cs : List Char) : Grouped isDigit cs (groupedDigits isDigit cs) := by
  unfold groupedDigits
  split
  · exact ⟨[], rfl, nofun, rfl⟩
  · next c rest =>
    split
    · next digit =>
      obtain ⟨run, whole, marks, digits⟩ := groupedDigits_more mark [c] rest
      refine ⟨c :: run, by rw [List.cons_append, ← whole], ?_, ?_⟩
      · exact List.forall_mem_cons.mpr ⟨.inl digit, marks⟩
      · rw [digits, List.filter_cons_of_pos digit]
        rfl
    · exact ⟨[], rfl, nofun, rfl⟩

theorem wholePart_grouped (cs : List Char) : Grouped Char.isDigit cs (wholePart cs) := by
  unfold wholePart
  split
  · exact ⟨['0'], rfl, List.forall_mem_singleton.mpr (.inl rfl), rfl⟩
  · exact groupedDigits_grouped Char.isDigit (by decide) cs

theorem fractionPart_suffix (cs : List Char) : (fractionPart cs).2 <:+ cs := by
  unfold fractionPart
  split
  · next rest =>
    have digits := (groupedDigits_grouped Char.isDigit (by decide) rest).suffix
    split
    · exact List.suffix_rfl
    · exact digits.trans (List.suffix_cons _ rest)
  · exact List.suffix_rfl

theorem signed_suffix (cs : List Char) : (Numeral.signed cs).2 <:+ cs := by
  unfold Numeral.signed
  split
  · exact List.suffix_cons _ _
  · exact List.suffix_cons _ _
  · exact List.suffix_rfl

theorem exponentPart_suffix (cs : List Char) : (exponentPart cs).2 <:+ cs := by
  unfold exponentPart
  split
  · next e rest =>
    have digits := (groupedDigits_grouped Char.isDigit (by decide)
      (Numeral.signed rest).2).suffix
    split
    · dsimp only
      split
      · exact List.suffix_rfl
      · next same =>
        rw [same] at digits
        exact digits.trans ((signed_suffix rest).trans (List.suffix_cons e rest))
    · exact List.suffix_rfl
  · exact List.suffix_rfl

theorem readDecimal_leaves : Leaves nesting cs (readDecimal cs) := by
  have grouped := wholePart_grouped (Numeral.signed cs).2
  have body := signed_suffix cs
  unfold readDecimal
  dsimp only
  split
  · exact .refuse
  · next ds rest _ same =>
    rw [same] at grouped
    have left := (exponentPart_suffix _).trans ((fractionPart_suffix rest).trans
      (grouped.suffix.trans body))
    split
    · split
      · next long =>
        -- the digits that are counted are those of a stretch of the text, without its underscores
        obtain ⟨run, whole, marks, rfl⟩ := grouped
        rw [← List.countP_eq_length_filter] at long ⊢
        have part : run <:+: (Numeral.signed cs).2 := ⟨[], rest, whole.symm⟩
        exact .error (.digits (part.trans body.isInfix) marks long)
      · exact .ok left
    · exact .ok left

theorem based?_suffix {found : Int × List Char} (read : based? cs = some found) :
    found.2 <:+ cs := by
  have digits {isDigit : Char → Bool} (mark : isDigit '_' = false) {rest : List Char}
      {found : List Char × List Char} (same : groupedDigits isDigit rest = found) :
      found.2 <:+ rest := same ▸ (groupedDigits_grouped isDigit mark rest).suffix
  unfold based? at read
  split at read
  · next rest =>
    dsimp only at read
    split at read
    · cases read
    · next same =>
      cases read
      exact (digits (by decide) same).trans (List.suffix_append ['0', 'x'] rest)
  · next rest =>
    dsimp only at read
    split at read
    · cases read
    · next same =>
      cases read
      exact (digits (by decide) same).trans (List.suffix_append ['0', 'b'] rest)
  · next rest =>
    dsimp only at read
    split at read
    · cases read
    · next same =>
      cases read
      exact (digits (by decide) same).trans (List.suffix_append ['0', 'o'] rest)
  · cases read

theorem specialReal?_suffix {found : Value × List Char} (read : specialReal? cs = some found) :
    found.2 <:+ cs := by
  have body := signed_suffix cs
  unfold specialReal? at read
  dsimp only at read
  split at read
  · next rest same =>
    cases read
    rw [same] at body
    exact (List.suffix_append ['i', 'n', 'f'] rest).trans body
  · next rest same =>
    cases read
    rw [same] at body
    exact (List.suffix_append ['n', 'a', 'n'] rest).trans body
  · cases read

/-! ### Dates and times -/

theorem fixedDigits_suffix {n : Nat} {found : Nat × List Char}
    (read : fixedDigits n cs = some found) : found.2 <:+ cs := by
  unfold fixedDigits at read
  dsimp only at read
  split at read
  · cases read
    exact List.drop_suffix n cs
  · cases read

theorem expect_suffix {c : Char} {rest : List Char} (read : expect c cs = some rest) :
    rest <:+ cs := by
  unfold expect at read
  split at read
  · next d rest' =>
    split at read
    · cases read
      exact List.suffix_cons d rest
    · cases read
  · cases read

theorem within_eq {low high : Nat} {found got : Nat × List Char}
    (read : within low high found = some got) : got = found := by
  unfold within at read
  split at read
  · exact (Option.some.inj read).symm
  · cases read

theorem fractionDigits_suffix (cs : List Char) : (fractionDigits cs).2 <:+ cs := by
  unfold fractionDigits
  split
  · next rest =>
    split
    · exact List.suffix_rfl
    · exact (List.dropWhile_suffix _).trans (List.suffix_cons _ rest)
  · exact List.suffix_rfl

theorem clock?_suffix {found : TimeOfDay × List Char} (read : clock? cs = some found) :
    found.2 <:+ cs := by
  unfold clock? at read
  simp only [Option.bind_eq_bind, Option.bind_eq_some_iff] at read
  obtain ⟨_, hour, _, ranged, _, colon, _, minute, _, ranged', _, colon', _, second, _, ranged'',
    whole⟩ := read
  obtain rfl := within_eq ranged
  obtain rfl := within_eq ranged'
  obtain rfl := within_eq ranged''
  cases whole
  have minutes := (fixedDigits_suffix minute).trans
    ((expect_suffix colon).trans (fixedDigits_suffix hour))
  have seconds := (fixedDigits_suffix second).trans ((expect_suffix colon').trans minutes)
  exact (fractionDigits_suffix _).trans seconds

theorem offset?_suffix {found : Int × List Char} (read : offset? cs = some found) :
    found.2 <:+ cs := by
  unfold offset? at read
  split at read
  · next c rest =>
    split at read
    · cases read
      exact List.suffix_cons c rest
    · split at read
      · simp only [Option.bind_eq_bind, Option.bind_eq_some_iff] at read
        obtain ⟨_, hours, _, ranged, _, colon, _, minutes, _, ranged', whole⟩ := read
        obtain rfl := within_eq ranged
        obtain rfl := within_eq ranged'
        cases whole
        exact (fixedDigits_suffix minutes).trans ((expect_suffix colon).trans
          ((fixedDigits_suffix hours).trans (List.suffix_cons c rest)))
      · cases read
  · cases read

theorem dateFields?_suffix {found : (Nat × Nat × Nat) × List Char}
    (read : dateFields? cs = some found) : found.2 <:+ cs := by
  unfold dateFields? at read
  simp only [Option.bind_eq_bind, Option.bind_eq_some_iff] at read
  obtain ⟨_, year, _, dash, _, month, _, ranged, _, dash', _, day, _, ranged', whole⟩ := read
  obtain rfl := within_eq ranged
  obtain rfl := within_eq ranged'
  cases whole
  have months := (fixedDigits_suffix month).trans
    ((expect_suffix dash).trans (fixedDigits_suffix year))
  exact (fixedDigits_suffix day).trans ((expect_suffix dash').trans months)

theorem timeAfterDate?_suffix {found : TimeOfDay × List Char}
    (read : timeAfterDate? cs = some found) : found.2 <:+ cs := by
  unfold timeAfterDate? at read
  split at read
  · next c rest =>
    split at read
    · exact (clock?_suffix read).trans (List.suffix_cons c rest)
    · cases read
  · cases read

theorem temporal?_leaves {x : Scan (Value × List Char)} (read : temporal? cs = some x) :
    Leaves nesting cs x := by
  unfold temporal? at read
  split at read
  · next year month day rest dated =>
    have date : rest <:+ cs := dateFields?_suffix dated
    cases read
    split
    · exact .refuse
    · split
      · exact .ok date
      · next timed =>
        have time := (timeAfterDate?_suffix timed).trans date
        split
        · next zoned => exact .ok ((offset?_suffix zoned).trans time)
        · exact .ok time
  · obtain ⟨found, timed, rfl⟩ := Option.map_eq_some_iff.mp read
    exact .ok (clock?_suffix timed)

theorem readPlain_leaves : Leaves nesting cs (readPlain cs) := by
  unfold readPlain
  split
  · next rest => exact .ok (List.suffix_append ['t', 'r', 'u', 'e'] rest)
  · next rest => exact .ok (List.suffix_append ['f', 'a', 'l', 's', 'e'] rest)
  · split
    · next timed => exact temporal?_leaves timed
    · next based => exact .ok (based?_suffix based)
    · split
      · exact readDecimal_leaves
      · split
        · next special => exact .ok (specialReal?_suffix special)
        · exact .refuse

/-! ### Values -/

/-- A change of a document, which is made or refused. -/
abbrev Changes (x : Scan Entries) : Prop := Gives (· = .malformed) (fun _ => True) x

theorem within?_changes {through : Bool} {change : Entries → Scan Entries}
    (changes : ∀ es, Changes (change es)) (es : Entries) (keys : List String) :
    Changes (within? through change es keys) := by
  induction keys generalizing es with
  | nil => exact changes es
  | cons k ks ih =>
    unfold within?
    split
    · exact (ih _).bind fun _ _ => .ok trivial
    · exact (ih _).bind fun _ _ => .ok trivial
    · split
      · exact (ih _).bind fun _ _ => .ok trivial
      · exact .error rfl
    · exact .error rfl

theorem addNew_changes (name : String) (v : Value) (es : Entries) : Changes (addNew name v es) := by
  unfold addNew
  split
  · exact .error rfl
  · exact .ok trivial

theorem addElement_changes (name : String) (es : Entries) : Changes (addElement name es) := by
  unfold addElement
  split
  · exact .ok trivial
  · exact .ok trivial
  · exact .error rfl

/-- A change reads nothing. -/
theorem Changes.through {x : Scan Entries} {f : Entries → Scan α} {left : α → List Char}
    (changes : Changes x) (next : ∀ es, (inside nesting).Through left cs (f es)) :
    (inside nesting).Through left cs (x >>= f) :=
  .guard (fun e failed => changes.failed e failed ▸ .malformed) fun es _ => next es

/-- What the four readers of values leave in so many steps. -/
structure LeavesWithin (steps : Nat) : Prop where
  value : ∀ {nesting cs}, Leaves nesting cs (readValue nesting steps cs)
  items : ∀ {nesting acc cs}, Leaves nesting cs (readItems nesting steps acc cs)
  pairs : ∀ {nesting es marks cs}, Leaves nesting cs (readPairs nesting steps es marks cs)
  pair : ∀ {nesting cs},
    (inside nesting).Through (fun found => found.2.2) cs (readPair nesting steps cs)

theorem enter_error {e : Trouble} (failed : enter nesting = .error e) : Ahead nesting cs e := by
  unfold enter at failed
  split at failed
  · cases failed
  · next deep =>
    obtain rfl := Except.error.inj failed
    exact .brackets (by omega)

/-- A reader that goes on behind a bracket, inside of what it opens. -/
theorem Leaves.opened (weight : Nat) {c : Char} {x : Scan (α × List Char)}
    (opens : isOpening c = true) (bound : weight ≤ 3) (leaves : Leaves (nesting + weight) cs x) :
    Leaves nesting (c :: cs) x where
  found a came := (leaves.found a came).trans (List.suffix_cons c cs)
  failed e went := (leaves.failed e went).opened opens bound

section

variable {steps : Nat}

theorem readValue_leaves (ih : LeavesWithin steps) :
    Leaves nesting cs (readValue nesting (steps + 1) cs) := by
  unfold readValue
  split
  · exact readString_leaves.bind fun _ _ => .ok List.suffix_rfl
  · exact readString_leaves.bind fun _ _ => .ok List.suffix_rfl
  · next rest =>
    refine .guard (fun e => enter_error) fun _ _ => ?_
    refine Leaves.opened 2 rfl (by decide) ((skipGaps_through _).bind fun gap _ => ?_)
    split
    · next later _ => exact .ok (List.suffix_cons _ later)
    · exact ih.items
  · next rest =>
    refine .guard (fun e => enter_error) fun _ _ => ?_
    split
    · next same => exact .ok ((skipBlanks_cons same).trans (List.suffix_cons _ rest))
    · exact Leaves.opened 3 rfl (by decide) (ih.pairs.from (skipBlanks_suffix rest))
  · exact readPlain_leaves

theorem readItems_leaves (ih : LeavesWithin steps) {acc : List Value} :
    Leaves nesting cs (readItems nesting (steps + 1) acc cs) := by
  unfold readItems
  refine ih.value.bind fun found _ => (skipGaps_through _).bind fun gap _ => ?_
  split
  · next rest _ => exact .ok (List.suffix_cons _ rest)
  · next rest _ =>
    refine Leaves.behind ((skipGaps_through _).bind fun gap' _ => ?_)
    split
    · next later _ => exact .ok (List.suffix_cons _ later)
    · exact ih.items
  · exact Leaves.refuse

theorem readPairs_leaves (ih : LeavesWithin steps) {es : Entries} {marks : Marks} :
    Leaves nesting cs (readPairs nesting (steps + 1) es marks cs) := by
  unfold readPairs
  refine ih.pair.bind fun found _ => ?_
  dsimp only
  split
  · exact Leaves.refuse
  · refine (within?_changes (addNew_changes _ _) _ _).through fun _ => ?_
    split
    · next same => exact .ok (skipBlanks_cons same)
    · next later same =>
      exact ih.pairs.from ((skipBlanks_suffix later).trans (skipBlanks_cons same))
    · exact Leaves.refuse

theorem readPair_leaves (ih : LeavesWithin steps) :
    (inside nesting).Through (fun found => found.2.2) cs (readPair nesting (steps + 1) cs) := by
  unfold readPair
  refine readKey_leaves.bind fun found _ => ?_
  obtain ⟨key, rest⟩ := found
  dsimp only
  split
  · next later _ =>
    refine (ih.value.from ?_).bind fun _ _ => .ok List.suffix_rfl
    exact (skipBlanks_suffix later).trans (List.suffix_cons _ later)
  · exact .error .malformed

end

/-- The four readers call one another with one step less, so all are followed at once. -/
theorem leavesWithin (steps : Nat) : LeavesWithin steps := by
  induction steps with
  | zero =>
    constructor
    · intro nesting cs
      simpa only [readValue] using Leaves.refuse
    · intro nesting acc cs
      simpa only [readItems] using Leaves.refuse
    · intro nesting es marks cs
      simpa only [readPairs] using Leaves.refuse
    · intro nesting cs
      simpa only [readPair] using .error .malformed
  | succ steps ih =>
    exact ⟨readValue_leaves ih, readItems_leaves ih, readPairs_leaves ih, readPair_leaves ih⟩

/-! ### Documents -/

namespace Document

theorem openTable_closing : (inside nesting).Through id cs (openTable.closing cs) := by
  unfold openTable.closing
  split
  · next rest => exact .ok (List.suffix_cons _ rest)
  · exact .error .malformed

theorem openElement_closing : (inside nesting).Through id cs (openElement.closing cs) := by
  unfold openElement.closing
  split
  · next rest => exact .ok (List.suffix_append [']', ']'] rest)
  · exact .error .malformed

theorem openTable_leaves {d : Document} : Leaves nesting cs (d.openTable cs) := by
  unfold openTable
  refine (readKey_leaves.from (skipBlanks_suffix cs)).bind fun found _ => ?_
  dsimp only
  split
  · exact Leaves.refuse
  · refine (within?_changes (fun _ => .ok trivial) _ _).through fun _ => ?_
    exact openTable_closing.bind fun _ _ => .ok List.suffix_rfl

theorem openElement_leaves {d : Document} : Leaves nesting cs (d.openElement cs) := by
  unfold openElement
  refine (readKey_leaves.from (skipBlanks_suffix cs)).bind fun found _ => ?_
  dsimp only
  split
  · exact Leaves.refuse
  · refine (within?_changes (addElement_changes _) _ _).through fun _ => ?_
    exact openElement_closing.bind fun _ _ => .ok List.suffix_rfl

theorem assign_leaves {d : Document} : Leaves 0 cs (d.assign cs) := by
  unfold assign
  refine (leavesWithin _).pair.bind fun found _ => ?_
  dsimp only
  split
  · exact Leaves.refuse
  · split
    · exact Leaves.refuse
    · exact (within?_changes (addNew_changes _ _) _ _).through fun _ => .ok List.suffix_rfl

theorem statement_leaves {d : Document} : Leaves 0 cs (d.statement cs) := by
  unfold statement
  split
  · exact .behind (.behind openElement_leaves)
  · exact .behind openTable_leaves
  · split
    · exact assign_leaves
    · split
      · exact .ok List.suffix_rfl
      · exact .refuse
  · exact .ok List.suffix_rfl

theorem readLines_error {steps : Nat} {d : Document} {e : Trouble}
    (failed : d.readLines steps cs = .error e) : Ahead 0 cs e := by
  suffices through : (inside 0).Through (fun _ => []) cs (d.readLines steps cs) from
    through.failed e failed
  clear failed
  induction steps generalizing d cs with
  | zero => exact .error .malformed
  | succ steps ih =>
    unfold readLines
    split
    · exact .ok List.nil_suffix
    · next same => exact ih.from (skipBlanks_cons same)
    · refine (statement_leaves.from (skipBlanks_suffix cs)).bind fun found _ => ?_
      refine (skipComment_through.from (skipBlanks_suffix found.2)).bind fun next _ => ?_
      split
      · exact .ok List.nil_suffix
      · next rest _ => exact ih.from (List.suffix_cons _ rest)
      · exact .error .malformed

end Document

/-! ### Texts -/

/-- A stretch without line breaks is the same when breaks of two characters count as one. -/
theorem oneBreak_front {run : List Char} (unbroken : '\n' ∉ run) (cs : List Char)
    (part : run <+: oneBreak cs) : run <+: cs := by
  induction run generalizing cs with
  | nil => exact List.nil_prefix
  | cons d run ih =>
    unfold oneBreak at part
    split at part
    · obtain ⟨rfl, _⟩ := List.cons_prefix_cons.mp part
      exact absurd List.mem_cons_self unbroken
    · next c rest _ =>
      obtain ⟨rfl, later⟩ := List.cons_prefix_cons.mp part
      have unbroken := fun broken => unbroken (List.mem_cons_of_mem d broken)
      exact List.cons_prefix_cons.mpr ⟨rfl, ih unbroken rest later⟩
    · exact part

theorem oneBreak_stretch {run : List Char} (unbroken : '\n' ∉ run) (cs : List Char)
    (part : run <:+: oneBreak cs) : run <:+: cs := by
  fun_induction oneBreak cs with
  | case1 rest ih =>
    rcases List.infix_cons_iff.mp part with front | later
    · exact (oneBreak_front unbroken ('\r' :: '\n' :: rest) front).isInfix
    · exact (ih later).trans (List.suffix_append ['\r', '\n'] rest).isInfix
  | case2 c rest other ih =>
    rcases List.infix_cons_iff.mp part with front | later
    · refine (oneBreak_front unbroken (c :: rest) ?_).isInfix
      rwa [oneBreak.eq_2 _ _ other]
    · exact (ih later).trans (List.suffix_cons c rest).isInfix
  | case3 => exact part

theorem countP_oneBreak {p : Char → Bool} (returns : p '\r' = false) (cs : List Char) :
    (oneBreak cs).countP p = cs.countP p := by
  fun_induction oneBreak cs with
  | case1 rest ih => simp [List.countP_cons, ih, returns]
  | case2 c rest _ ih => simp [List.countP_cons, ih]
  | case3 => rfl

/-- Trouble that is not bad form is in the text. -/
theorem read_error {s : String} {e : Trouble} (failed : read s = .error e) :
    Ahead 0 s.toList e := by
  cases Document.readLines_error failed with
  | malformed => exact .malformed
  | digits part marks long =>
    refine .digits (oneBreak_stretch (fun broken => ?_) s.toList part) marks long
    exact absurd (marks _ broken) (by decide)
  | brackets many => exact .brackets (countP_oneBreak (p := isOpening) (by decide) s.toList ▸ many)

end Quire.Toml
