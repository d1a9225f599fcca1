import Quire.Proofs.Passage
import Quire.Yaml.Lexer
import Mathlib.Algebra.Group.Nat.Defs
import Mathlib.Data.List.Infix

/-! Cutting a text into tokens goes forward through it. What goes wrong on the way is bad form, or
an escape that gives the number of a character there is not. -/

namespace Quire.Yaml

/-- Trouble that may be met in a text when it is cut into tokens. -/
inductive Astray (cs : List Char) : Trouble → Prop
  | malformed : Astray cs .malformed
  | escape {digits : List Char} {values : List Nat} {t : Trouble}
      (part : ('\\' :: 'U' :: digits) <:+: cs) (width : digits.length = 8)
      (hex : digits.mapM Numeral.hexValue? = some values)
      (beyond : charOfCode (Numeral.ofDigits 16 values) = .error t) : Astray cs t

theorem Astray.sooner {cs rest : List Char} {t : Trouble} (left : rest <:+ cs)
    (astray : Astray rest t) : Astray cs t := by
  cases astray with
  | malformed => exact .malformed
  | escape part width hex beyond => exact .escape (part.trans left.isInfix) width hex beyond

/-- The way of a cursor through a text. -/
def along : Passage Cursor Trouble where
  ahead c next := next.rest <:+ c.rest
  meets c := Astray c.rest
  refl _ := List.suffix_rfl
  trans first second := second.trans first
  sooner := Astray.sooner

variable {α : Type} {c : Cursor}

theorem along_refuse {r : α → Cursor} : along.Through r c (refuse : Scan α) :=
  .error .malformed

/-! ### Moves -/

namespace Cursor

theorem skip_suffix (c : Cursor) (n : Nat) : (c.skip n).rest <:+ c.rest := List.drop_suffix n c.rest

theorem lineBreak?_suffix {b : Char} {next : Cursor} (found : c.lineBreak? = some (b, next)) :
    next.rest <:+ c.rest := by
  unfold lineBreak? at found
  split at found
  · next rest same =>
    cases found
    rw [same]
    exact List.suffix_append ['\r', '\n'] rest
  · next d rest _ same =>
    have behind : rest <:+ c.rest := same ▸ List.suffix_cons d rest
    split at found
    · cases found
      exact behind
    · split at found
      · cases found
        exact behind
      · cases found
  · cases found

theorem skipBreak_suffix (c : Cursor) : c.skipBreak.rest <:+ c.rest := by
  unfold skipBreak
  cases found : c.lineBreak? with
  | none => exact List.suffix_rfl
  | some broken => exact lineBreak?_suffix found

theorem takeWhile_suffix (c : Cursor) (p : Char → Bool) : (c.takeWhile p).2.rest <:+ c.rest :=
  c.skip_suffix _

theorem skipWhile_suffix (c : Cursor) (p : Char → Bool) : (c.skipWhile p).rest <:+ c.rest :=
  c.skip_suffix _

theorem skipSpaces_suffix (c : Cursor) : c.skipSpaces.rest <:+ c.rest := c.skip_suffix _

theorem skipComment_suffix (c : Cursor) : c.skipComment.rest <:+ c.rest := by
  unfold skipComment
  split
  · exact c.skipWhile_suffix _
  · exact List.suffix_rfl

theorem skipIndent_suffix (c : Cursor) (column : Nat) : (c.skipIndent column).rest <:+ c.rest :=
  c.skip_suffix _

end Cursor

/-! ### Quoted scalars -/

theorem quotedBreaks_along (steps : Nat) (acc : List Char) :
    along.Through Prod.snd c (quotedBreaks steps c acc) := by
  induction steps generalizing c acc with
  | zero => exact along_refuse
  | succ steps ih =>
    unfold quotedBreaks
    have blanks := c.skipWhile_suffix isSpaceOrTab
    split
    · exact along_refuse
    · dsimp only
      split
      · next found => exact (ih _).from ((Cursor.lineBreak?_suffix found).trans blanks)
      · exact .ok blanks

theorem quotedBlanks_along : along.Through Prod.snd c (quotedBlanks c) := by
  unfold quotedBlanks
  have blanks := c.takeWhile_suffix isSpaceOrTab
  dsimp only
  split
  · next found =>
    refine ((quotedBreaks_along _ []).from ?_).bind fun _ _ => .ok List.suffix_rfl
    exact (Cursor.lineBreak?_suffix found).trans blanks
  · split
    · exact along_refuse
    · exact .ok blanks

theorem hexValue?_lt {d : Char} {n : Nat} (value : Numeral.hexValue? d = some n) : n < 16 := by
  unfold Numeral.hexValue? at value
  have le (a b : Char) (below : a ≤ b) : a.toNat ≤ b.toNat := below
  split at value
  · next digit =>
    have high := (Char.isDigit_iff_toNat.mp digit).2
    cases value
    simp at high ⊢
    omega
  · split at value
    · next letter =>
      have high := le _ _ letter.2
      cases value
      simp at high ⊢
      omega
    · split at value
      · next letter =>
        have high := le _ _ letter.2
        cases value
        simp at high ⊢
        omega
      · cases value

theorem hexValues_lt {digits : List Char} {values : List Nat}
    (hex : digits.mapM Numeral.hexValue? = some values) :
    values.length = digits.length ∧ ∀ n ∈ values, n < 16 := by
  induction digits generalizing values with
  | nil =>
    cases hex
    exact ⟨rfl, nofun⟩
  | cons d digits ih =>
    rw [List.mapM_cons] at hex
    simp only [Option.bind_eq_bind, Option.bind_eq_some_iff] at hex
    obtain ⟨n, value, rest, later, whole⟩ := hex
    cases whole
    obtain ⟨same, each⟩ := ih later
    exact ⟨congrArg (· + 1) same, List.forall_mem_cons.mpr ⟨hexValue?_lt value, each⟩⟩

theorem ofDigits_lt {values : List Nat} (each : ∀ n ∈ values, n < 16) :
    Numeral.ofDigits 16 values < 16 ^ values.length := by
  suffices general : ∀ n, values.foldl (fun n d => 16 * n + d) n < (n + 1) * 16 ^ values.length by
    simpa only [Numeral.ofDigits, Nat.zero_add, Nat.one_mul] using general 0
  induction values with
  | nil => simp
  | cons d values ih =>
    intro n
    obtain ⟨small, each⟩ := List.forall_mem_cons.mp each
    calc values.foldl (fun n d => 16 * n + d) (16 * n + d)
      _ < (16 * n + d + 1) * 16 ^ values.length := ih each _
      _ ≤ (16 * (n + 1)) * 16 ^ values.length := Nat.mul_le_mul_right _ (by omega)
      _ = (n + 1) * 16 ^ (values.length + 1) := by
        rw [Nat.pow_succ', ← Nat.mul_assoc, Nat.mul_comm (n + 1)]

theorem charOfCode_small {n : Nat} (small : n < 0x110000) :
    charOfCode n = .ok (Text.charOfCode n) := by
  unfold charOfCode
  rw [if_neg (by omega), if_neg (by omega)]

theorem hexEscape_suffix {width : Nat} {found : Char × Cursor}
    (read : hexEscape width c = .ok found) : found.2.rest <:+ c.rest := by
  unfold hexEscape at read
  dsimp only at read
  split at read
  · cases read
  · split at read
    · cases read
    · obtain ⟨_, _, read⟩ := bind_eq_ok.mp read
      cases read
      exact c.skip_suffix width

theorem hexEscape_error {width : Nat} {t : Trouble} (failed : hexEscape width c = .error t) :
    t = .malformed ∨ (c.rest.take width).length = width ∧
      ∃ values, (c.rest.take width).mapM Numeral.hexValue? = some values ∧
        charOfCode (Numeral.ofDigits 16 values) = .error t := by
  unfold hexEscape at failed
  dsimp only at failed
  split at failed
  · exact .inl (Except.error.inj failed).symm
  · next values hex =>
    split at failed
    · exact .inl (Except.error.inj failed).symm
    · next full =>
      obtain ⟨same, _⟩ := hexValues_lt hex
      have most := List.length_take_le width c.rest
      rcases bind_eq_error.mp failed with beyond | ⟨_, _, done⟩
      · exact .inr ⟨by omega, values, hex, beyond⟩
      · cases done

/-- A number of at most four digits is that of a character. -/
theorem hexEscape_short {width : Nat} (short : width ≤ 4) {t : Trouble}
    (failed : hexEscape width c = .error t) : t = .malformed := by
  rcases hexEscape_error failed with bad | ⟨full, values, hex, beyond⟩
  · exact bad
  · obtain ⟨same, each⟩ := hexValues_lt hex
    have bound : 16 ^ values.length ≤ 16 ^ 4 := Nat.pow_le_pow_right (by decide) (by omega)
    rw [charOfCode_small ((ofDigits_lt each).trans (bound.trans_lt (by decide)))] at beyond
    cases beyond

theorem hexWidth?_cases {e : Char} {width : Nat} (wide : hexWidth? e = some width) :
    width ≤ 4 ∨ e = 'U' ∧ width = 8 := by
  unfold hexWidth? at wide
  split at wide
  · cases wide
    exact .inl (by decide)
  · cases wide
    exact .inl (by decide)
  · cases wide
    exact .inr ⟨rfl, rfl⟩
  · cases wide

theorem quotedEscape_along {rest : List Char} (slash : c.rest = '\\' :: rest) :
    along.Through Prod.snd c (quotedEscape (c.skip 1)) := by
  have behind := c.skip_suffix 1
  unfold quotedEscape
  split
  · next next found =>
    exact (quotedBreaks_along _ []).from ((Cursor.lineBreak?_suffix found).trans behind)
  · split
    · exact along_refuse
    · next e there =>
      split
      · exact .ok (((c.skip 1).skip_suffix 1).trans behind)
      · next width _ wide =>
        refine ⟨fun found came => ?_, fun t failed => ?_⟩
        · obtain ⟨_, read, came⟩ := bind_eq_ok.mp came
          cases came
          exact (hexEscape_suffix read).trans (((c.skip 1).skip_suffix 1).trans behind)
        · rcases bind_eq_error.mp failed with failed | ⟨_, _, done⟩
          · rcases hexWidth?_cases wide with short | ⟨rfl, rfl⟩
            · exact hexEscape_short short failed ▸ .malformed
            · rcases hexEscape_error failed with rfl | ⟨full, values, hex, beyond⟩
              · exact .malformed
              · obtain ⟨tail, rfl⟩ : ∃ tail, rest = 'U' :: tail := by
                  simp only [Cursor.peek, Cursor.skip, slash, List.drop_succ_cons,
                    List.drop_zero] at there
                  exact List.head?_eq_some_iff.mp there
                -- the letter stands before the digits, so the whole escape is in the text
                refine .escape ⟨[], tail.drop 8, ?_⟩ full hex beyond
                simp [Cursor.skip, slash]
          · cases done
      · exact along_refuse

theorem quotedBody_along (double : Bool) (steps : Nat) (acc : List (List Char)) :
    along.Through Prod.snd c (quotedBody double steps c acc) := by
  induction steps generalizing c acc with
  | zero => exact along_refuse
  | succ steps ih =>
    unfold quotedBody
    split
    · exact along_refuse
    · next ch rest same =>
      split
      · split
        · exact (ih _).from (c.skip_suffix 2)
        · exact .ok (c.skip_suffix 1)
      · split
        · exact .ok (c.skip_suffix 1)
        · split
          · next slash => exact (quotedEscape_along (slash.1 ▸ same)).bind fun _ _ => ih _
          · split
            · exact quotedBlanks_along.bind fun _ _ => ih _
            · dsimp only
              split
              · exact (ih _).from (c.skip_suffix 1)
              · exact (ih _).from (c.takeWhile_suffix _)

theorem scanQuoted_along (double : Bool) : along.Through Prod.snd c (scanQuoted double c) :=
  ((quotedBody_along double _ []).from (c.skip_suffix 1)).bind fun _ _ => .ok List.suffix_rfl

/-! ### Plain scalars and blocks -/

theorem plainBreaks_suffix (steps : Nat) (c : Cursor) (acc : List Char) :
    (plainBreaks steps c acc).2.rest <:+ c.rest := by
  induction steps generalizing c acc with
  | zero => exact List.suffix_rfl
  | succ steps ih =>
    unfold plainBreaks
    have blanks := c.skipSpaces_suffix
    split
    · exact List.suffix_rfl
    · dsimp only
      split
      · next found => exact (ih _ _).trans ((Cursor.lineBreak?_suffix found).trans blanks)
      · exact blanks

theorem plainBlanks_suffix (c : Cursor) : (plainBlanks c).2.2.rest <:+ c.rest := by
  unfold plainBlanks
  have blanks := c.takeWhile_suffix isSpace
  dsimp only
  split
  · exact blanks
  · next next found =>
    have broken := (Cursor.lineBreak?_suffix found).trans blanks
    have more := plainBreaks_suffix (next.rest.length + 1) next []
    split
    · next same => exact (same ▸ more).trans broken
    · next same => exact (same ▸ more).trans broken

theorem plainBody_suffix (inFlow : Bool) (indent steps : Nat) (c : Cursor) (blanks : List Char)
    (broken : Bool) (acc : List (List Char)) :
    (plainBody inFlow indent steps c blanks broken acc).2.2.rest <:+ c.rest := by
  induction steps generalizing c blanks broken acc with
  | zero => exact List.suffix_rfl
  | succ steps ih =>
    unfold plainBody
    dsimp only
    split
    · exact List.suffix_rfl
    · have stretch := (plainBlanks_suffix (c.skip (plainStretch inFlow c.rest))).trans
        (c.skip_suffix _)
      split
      · exact stretch
      · exact (ih _ _ _ _).trans stretch

theorem scanPlain_suffix (inFlow : Bool) (indent : Nat) (c : Cursor) :
    (scanPlain inFlow indent c).2.2.rest <:+ c.rest :=
  plainBody_suffix inFlow indent (c.rest.length + 1) c [] false []

theorem indentMark_along : along.Through Prod.snd c (indentMark c) := by
  unfold indentMark
  split
  · split
    · exact along_refuse
    · split
      · exact .ok (c.skip_suffix 1)
      · exact .ok List.suffix_rfl
  · exact .ok List.suffix_rfl

theorem blockMarks_along : along.Through (fun found => found.2.2) c (blockMarks c) := by
  unfold blockMarks
  split
  · exact (indentMark_along.from (c.skip_suffix 1)).bind fun _ _ => .ok List.suffix_rfl
  · refine indentMark_along.bind fun found _ => ?_
    dsimp only
    split
    · exact .ok (found.2.skip_suffix 1)
    · exact .ok List.suffix_rfl

theorem restOfLine_along : along.Through id c (restOfLine c) := by
  have comment := c.skipSpaces.skipComment_suffix.trans c.skipSpaces_suffix
  unfold restOfLine
  dsimp only
  split
  · exact .ok ((Cursor.skipBreak_suffix _).trans comment)
  · exact along_refuse

theorem blockLead_suffix (steps : Nat) (c : Cursor) (acc : List Char) (widest : Nat) :
    (blockLead steps c acc widest).2.2.rest <:+ c.rest := by
  induction steps generalizing c acc widest with
  | zero => exact List.suffix_rfl
  | succ steps ih =>
    unfold blockLead
    have blanks := c.skipSpaces_suffix
    dsimp only
    split
    · next found => exact (ih _ _ _).trans ((Cursor.lineBreak?_suffix found).trans blanks)
    · exact blanks

theorem blockBreaks_suffix (indent steps : Nat) (c : Cursor) (acc : List Char) :
    (blockBreaks indent steps c acc).2.rest <:+ c.rest := by
  induction steps generalizing c acc with
  | zero => exact List.suffix_rfl
  | succ steps ih =>
    unfold blockBreaks
    have blanks := c.skipIndent_suffix indent
    dsimp only
    split
    · next found => exact (ih _ _).trans ((Cursor.lineBreak?_suffix found).trans blanks)
    · exact blanks

theorem blockBody_suffix (folded : Bool) (indent steps : Nat) (c : Cursor)
    (breaks last : List Char) (acc : List (List Char)) :
    (blockBody folded indent steps c breaks last acc).2.2.2.rest <:+ c.rest := by
  induction steps generalizing c breaks last acc with
  | zero => exact List.suffix_rfl
  | succ steps ih =>
    unfold blockBody
    split
    · exact List.suffix_rfl
    · have line := (Cursor.skipBreak_suffix _).trans (c.takeWhile_suffix (!isBreak ·))
      have next (steps : Nat) := (blockBreaks_suffix indent steps _ []).trans line
      dsimp only
      split
      · exact (ih _ _ _ _).trans (next _)
      · exact next _

theorem scanBlock_along (folded : Bool) (least : Nat) :
    along.Through Prod.snd c (scanBlock folded least c) := by
  unfold scanBlock
  refine (blockMarks_along.from (c.skip_suffix 1)).bind fun found _ => ?_
  obtain ⟨chomp, mark, next⟩ := found
  dsimp only
  split
  · exact along_refuse
  · refine restOfLine_along.bind fun line _ => ?_
    cases mark with
    | none =>
      have lead := blockLead_suffix (line.rest.length + 1) line [] 0
      exact .ok ((blockBody_suffix folded _ _ _ _ _ _).trans lead)
    | some n =>
      have lead := blockBreaks_suffix (least + n - 1) (line.rest.length + 1) line []
      exact .ok ((blockBody_suffix folded _ _ _ _ _ _).trans lead)

/-! ### Tokens -/

namespace Lexer

variable {l : Lexer}

/-- What a step of cutting answers with. -/
abbrev Along (l : Lexer) (x : Scan Lexer) : Prop := along.Through cursor l.cursor x

theorem dropStale_along : Along l l.dropStale := by
  unfold dropStale
  split
  · exact along_refuse
  · exact .ok List.suffix_rfl

theorem dropCandidate_along : Along l l.dropCandidate := by
  unfold dropCandidate
  split
  · exact along_refuse
  · exact .ok List.suffix_rfl

theorem saveCandidate_along : Along l l.saveCandidate := by
  unfold saveCandidate
  split
  · exact .ok List.suffix_rfl
  · exact dropCandidate_along.bind fun _ _ => .ok List.suffix_rfl

theorem closeBlocks_cursor (l : Lexer) (keeps : Nat → Bool) (columns : List Nat) :
    (l.closeBlocks keeps columns).cursor = l.cursor := by
  induction columns generalizing l with
  | nil => rfl
  | cons n rest ih =>
    unfold closeBlocks
    split
    · rfl
    · exact ih _

theorem unwindTo_suffix (l : Lexer) (column : Nat) :
    (l.unwindTo column).cursor.rest <:+ l.cursor.rest := by
  unfold unwindTo
  split
  · exact List.suffix_rfl
  · rw [closeBlocks_cursor]

theorem unwindAll_suffix (l : Lexer) : l.unwindAll.cursor.rest <:+ l.cursor.rest := by
  unfold unwindAll
  split
  · exact List.suffix_rfl
  · rw [closeBlocks_cursor]

theorem unwound_along : Along l l.unwindAll.dropCandidate :=
  dropCandidate_along.from l.unwindAll_suffix

/-- A mark of one character where no key may have started. -/
theorem mark_along (l : Lexer) (allowed : Bool) (t : Token) :
    Along l (do
      let l ← dropCandidate { l with keyAllowed := allowed }
      return (l.skip 1).emit t) :=
  (dropCandidate_along (l := { l with keyAllowed := allowed })).bind
    fun next _ => .ok (next.cursor.skip_suffix 1)

theorem toNext_suffix (steps : Nat) (l : Lexer) :
    (l.toNext steps).cursor.rest <:+ l.cursor.rest := by
  induction steps generalizing l with
  | zero => exact List.suffix_rfl
  | succ steps ih =>
    unfold toNext
    have comment := l.cursor.skipSpaces.skipComment_suffix.trans l.cursor.skipSpaces_suffix
    dsimp only
    split
    · next found => exact (ih _).trans ((Cursor.lineBreak?_suffix found).trans comment)
    · exact comment

theorem atStart_suffix (l : Lexer) : l.atStart.cursor.rest <:+ l.cursor.rest := by
  unfold atStart
  split
  · exact l.cursor.skip_suffix 1
  · exact List.suffix_rfl

theorem endStream_along : Along l l.endStream :=
  unwound_along.bind fun _ _ => .ok List.suffix_rfl

theorem documentMark_along (t : Token) : Along l (l.documentMark t) :=
  unwound_along.bind fun next _ => .ok (next.cursor.skip_suffix 3)

theorem uriText_along (steps : Nat) (acc : List Char) :
    along.Through Prod.snd c (uriText steps c acc) := by
  induction steps generalizing c acc with
  | zero => exact along_refuse
  | succ steps ih =>
    unfold uriText
    split
    · split
      · exact along_refuse
      · split
        · exact along_refuse
        · exact (ih _).from (c.skip_suffix _)
    · split
      · exact (ih _).from (c.skip_suffix 1)
      · exact .ok List.suffix_rfl
    · exact .ok List.suffix_rfl

theorem scanUri_along : along.Through Prod.snd c (scanUri c) := by
  refine (uriText_along _ []).bind fun found _ => ?_
  dsimp only
  split
  · exact along_refuse
  · exact .ok List.suffix_rfl

theorem scanHandle_along : along.Through Prod.snd c (scanHandle c) := by
  unfold scanHandle
  split
  · exact .ok (c.skip_suffix 1)
  · dsimp only
    split
    · exact .ok (c.skip_suffix _)
    · exact along_refuse
  · exact along_refuse

theorem scanDigits_along : along.Through Prod.snd c (scanDigits c) := by
  unfold scanDigits
  dsimp only
  split
  · exact along_refuse
  · exact .ok (c.takeWhile_suffix _)

theorem scanDirective_along : along.Through Prod.snd c (scanDirective c) := by
  have name := ((c.skip 1).takeWhile_suffix isNameChar).trans (c.skip_suffix 1)
  have blanks (c : Cursor) : along.ahead c c.skipSpaces := c.skipSpaces_suffix
  unfold scanDirective
  dsimp only
  split
  · exact along_refuse
  · split
    · refine (scanDigits_along.from ((blanks _).trans name)).bind fun major _ => ?_
      split
      · exact along_refuse
      · refine (scanDigits_along.from (major.2.skip_suffix 1)).bind fun minor _ => ?_
        split
        · exact restOfLine_along.bind fun _ _ => .ok List.suffix_rfl
        · exact along_refuse
    · split
      · refine (scanHandle_along.from ((blanks _).trans name)).bind fun handle _ => ?_
        split
        · exact along_refuse
        · refine (scanUri_along.from (blanks handle.2)).bind fun expansion _ => ?_
          split
          · exact restOfLine_along.bind fun _ _ => .ok List.suffix_rfl
          · exact along_refuse
      · have line := (Cursor.skipWhile_suffix _ (!isBreak ·)).trans name
        exact (restOfLine_along.from line).bind fun _ _ => .ok List.suffix_rfl

theorem directive_along : Along l l.directive :=
  unwound_along.bind fun _ _ => scanDirective_along.bind fun _ _ => .ok List.suffix_rfl

theorem flowStart_along (t : Token) : Along l (l.flowStart t) :=
  saveCandidate_along.bind fun next _ => .ok (next.cursor.skip_suffix 1)

theorem flowEnd_along (t : Token) : Along l (l.flowEnd t) :=
  dropCandidate_along.bind fun next _ => .ok (next.cursor.skip_suffix 1)

theorem flowEntry_along : Along l l.flowEntry := mark_along l true .flowEntry

theorem openFor_along (t : Token) : Along l (l.openFor t) := by
  unfold openFor
  split
  · exact .ok List.suffix_rfl
  · split
    · exact along_refuse
    · split
      · exact .ok List.suffix_rfl
      · exact .ok List.suffix_rfl

theorem blockEntry_along : Along l l.blockEntry :=
  (openFor_along _).bind fun next _ => mark_along next true .blockEntry

theorem explicitKey_along : Along l l.explicitKey :=
  (openFor_along _).bind fun next _ => mark_along next _ .key

theorem value_along : Along l l.value := by
  unfold value
  split
  · dsimp only
    split
    · exact .ok (l.cursor.skip_suffix 1)
    · exact .ok (l.cursor.skip_suffix 1)
  · exact (openFor_along _).bind fun next _ => mark_along next _ .value

theorem named_along (make : String → Token) : Along l (l.named make) := by
  refine saveCandidate_along.bind fun next _ => ?_
  dsimp only
  split
  · exact along_refuse
  · exact .ok (((next.cursor.skip 1).takeWhile_suffix _).trans (next.cursor.skip_suffix 1))

theorem scanTag_along : along.Through Prod.snd c (scanTag c) := by
  unfold scanTag
  refine .bind (r := Prod.snd) ?_ fun found _ => .ite (.ok List.suffix_rfl) along_refuse
  split
  · refine (scanUri_along.from (c.skip_suffix 2)).bind fun found _ => ?_
    exact .ite (.ok (found.2.skip_suffix 1)) along_refuse
  · refine .ite (.ok (c.skip_suffix 1)) (.ite ?_ ?_)
    · exact scanHandle_along.bind fun _ _ => scanUri_along.bind fun _ _ => .ok List.suffix_rfl
    · exact (scanUri_along.from (c.skip_suffix 1)).bind fun _ _ => .ok List.suffix_rfl

theorem tag_along : Along l l.tag :=
  saveCandidate_along.bind fun _ _ => scanTag_along.bind fun _ _ => .ok List.suffix_rfl

theorem block_along (folded : Bool) : Along l (l.block folded) :=
  (dropCandidate_along (l := { l with keyAllowed := true })).bind fun _ _ =>
    (scanBlock_along _ _).bind fun _ _ => .ok List.suffix_rfl

theorem quoted_along (double : Bool) : Along l (l.quoted double) :=
  saveCandidate_along.bind fun _ _ => (scanQuoted_along _).bind fun _ _ => .ok List.suffix_rfl

theorem plain_along : Along l l.plain :=
  saveCandidate_along.bind fun _ _ => .ok (scanPlain_suffix _ _ _)

theorem fetch_along : Along l l.fetch := by
  unfold fetch
  split
  · exact endStream_along
  · refine .ite directive_along <| .ite (documentMark_along _) <| .ite (documentMark_along _) <|
      .ite (flowStart_along _) <| .ite (flowStart_along _) <| .ite (flowEnd_along _) <|
      .ite (flowEnd_along _) <| .ite flowEntry_along <| .ite blockEntry_along <|
      .ite explicitKey_along <| .ite value_along <| .ite (named_along _) <| .ite (named_along _) <|
      .ite tag_along <| .ite (block_along _) <| .ite (block_along _) <| .ite (quoted_along _) <|
      .ite (quoted_along _) <| .ite plain_along along_refuse

theorem step_along : Along l l.step := by
  refine (dropStale_along.from (toNext_suffix _ l)).bind fun next _ => ?_
  exact fetch_along.from (next.unwindTo_suffix _)

/-- What ends the tokens early lies ahead in the text. -/
theorem run_trouble {steps : Nat} {t : Trouble} (failed : (l.run steps).2 = some t) :
    Astray l.cursor.rest t := by
  induction steps generalizing l with
  | zero =>
    cases failed
    exact .malformed
  | succ steps ih =>
    unfold run at failed
    split at failed
    · cases failed
    · split at failed
      · next next stepped => exact (ih failed).sooner (step_along.found next stepped)
      · next e stepped =>
        cases failed
        exact step_along.failed t stepped

end Lexer

theorem Token.scan_trouble {cs : List Char} {t : Trouble} (failed : (Token.scan cs).2 = some t) :
    Astray cs t := (Lexer.run_trouble failed).sooner (Lexer.atStart_suffix _)

end Quire.Yaml
