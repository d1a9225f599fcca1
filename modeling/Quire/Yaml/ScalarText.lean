import Quire.Yaml.Token

/-! Cutting scalars out of a text: quoted ones with their escapes, plain ones,
and blocks, each with its rule for folding lines. Loops over lines carry a
count of steps, which the length of the rest bounds. -/

namespace Quire.Yaml

/-- Line breaks and the blanks after each, inside quotes. -/
def quotedBreaks (steps : Nat) (c : Cursor) (acc : List Char) : Scan (List Char × Cursor) :=
  match steps with
  | 0 => refuse
  | steps + 1 =>
    if c.atSeparator then refuse
    else
      let c := c.skipWhile isSpaceOrTab
      match c.lineBreak? with
      | some (b, c) => quotedBreaks steps c (b :: acc)
      | none => .ok (acc.reverse, c)

/-- What a break and the breaks after it fold into: a single one to a space, a
first of several to nothing. -/
def foldBreak (first : Char) (more : List Char) : List Char :=
  if first ≠ '\n' then first :: more
  else if more.isEmpty then [' ']
  else more

/-- Blanks inside quotes, kept within a line and folded across lines. -/
def quotedBlanks (c : Cursor) : Scan (List Char × Cursor) := do
  let (blanks, c) := c.takeWhile isSpaceOrTab
  match c.lineBreak? with
  | some (b, c) =>
    let (more, c) ← quotedBreaks (c.rest.length + 1) c []
    return (foldBreak b more, c)
  | none => if c.atEnd then refuse else return (blanks, c)

def shortEscape? : Char → Option Char
  | '0' => some '\x00'
  | 'a' => some '\x07'
  | 'b' => some '\x08'
  | 't' => some '\t'
  | '\t' => some '\t'
  | 'n' => some '\n'
  | 'v' => some '\x0b'
  | 'f' => some '\x0c'
  | 'r' => some '\r'
  | 'e' => some '\x1b'
  | ' ' => some ' '
  | '"' => some '"'
  | '\\' => some '\\'
  | '/' => some '/'
  | 'N' => some '\u0085'
  | '_' => some '\u00a0'
  | 'L' => some '\u2028'
  | 'P' => some '\u2029'
  | _ => none

def hexWidth? : Char → Option Nat
  | 'x' => some 2
  | 'u' => some 4
  | 'U' => some 8
  | _ => none

/-- A character by its number. -/
def charOfCode (n : Nat) : Scan Char :=
  if 0x80000000 ≤ n then .error (.overflow "Python int too large to convert to C int")
  else if 0x110000 ≤ n then .error (.badValue "chr() arg not in range(0x110000)")
  else .ok (Text.charOfCode n)

def hexEscape (width : Nat) (c : Cursor) : Scan (Char × Cursor) := do
  let digits := c.rest.take width
  match digits.mapM Numeral.hexValue? with
  | none => refuse
  | some ds =>
    if ds.length < width then refuse
    else return (← charOfCode (Numeral.ofDigits 16 ds), c.skip width)

/-- The escape after a backslash; a line break there folds to nothing. -/
def quotedEscape (c : Cursor) : Scan (List Char × Cursor) := do
  match c.lineBreak? with
  | some (_, next) => quotedBreaks (next.rest.length + 1) next []
  | none =>
    match c.peek with
    | none => refuse
    | some e =>
      match shortEscape? e, hexWidth? e with
      | some ch, _ => return ([ch], c.skip 1)
      | none, some width =>
        let (ch, c) ← hexEscape width (c.skip 1)
        return ([ch], c)
      | none, none => refuse

/-- The text after the opening quote, and the place after the closing one. -/
def quotedBody (double : Bool) (steps : Nat) (c : Cursor) (acc : List (List Char)) :
    Scan (List Char × Cursor) :=
  match steps with
  | 0 => refuse
  | steps + 1 =>
    match c.rest with
    | [] => refuse
    | ch :: rest =>
      if ch = '\'' ∧ !double then
        if rest.head? = some '\'' then quotedBody double steps (c.skip 2) (['\''] :: acc)
        else .ok (acc.reverse.flatten, c.skip 1)
      else if ch = '"' ∧ double then .ok (acc.reverse.flatten, c.skip 1)
      else if ch = '\\' ∧ double then do
        let (text, c) ← quotedEscape (c.skip 1)
        quotedBody double steps c (text :: acc)
      else if isSpaceOrTab ch ∨ isBreak ch then do
        let (text, c) ← quotedBlanks c
        quotedBody double steps c (text :: acc)
      else
        let (text, next) := c.takeWhile fun d =>
          !(d = '\'' || d = '"' || d = '\\' || isSpaceOrTab d || isBreak d)
        if text.isEmpty then quotedBody double steps (c.skip 1) ([ch] :: acc)
        else quotedBody double steps next (text :: acc)

def scanQuoted (double : Bool) (c : Cursor) : Scan (Token × Cursor) := do
  let (text, c) ← quotedBody double (c.rest.length + 1) (c.skip 1) []
  return (.scalar (String.ofList text) false, c)

/-- Breaks and spaces between lines of a plain scalar; none at a separator. -/
def plainBreaks (steps : Nat) (c : Cursor) (acc : List Char) : Option (List Char) × Cursor :=
  match steps with
  | 0 => (none, c)
  | steps + 1 =>
    if c.atSeparator then (none, c)
    else
      let c := c.skipSpaces
      match c.lineBreak? with
      | some (b, c) => plainBreaks steps c (b :: acc)
      | none => (some acc.reverse, c)

/-- Blanks after a stretch of a plain scalar: their text, whether a line break
was among them, and the place after. No text ends the scalar. -/
def plainBlanks (c : Cursor) : List Char × Bool × Cursor :=
  let (blanks, c) := c.takeWhile isSpace
  match c.lineBreak? with
  | none => (blanks, false, c)
  | some (b, c) =>
    match plainBreaks (c.rest.length + 1) c [] with
    | (none, c) => ([], true, c)
    | (some more, c) => (foldBreak b more, true, c)

/-- The length of a stretch of a plain scalar without blanks. -/
def plainStretch (inFlow : Bool) : List Char → Nat
  | [] => 0
  | ch :: rest =>
    let stops := isSpaceOrTab ch || isBreak ch
      || (ch = ':' && (isBlankOrEnd rest.head?
        || (inFlow && rest.head?.any fun d => ",[]\x7b\x7d".toList.contains d)))
      || (inFlow && ",?[]\x7b\x7d".toList.contains ch)
    if stops then 0 else plainStretch inFlow rest + 1

def plainBody (inFlow : Bool) (indent : Nat) (steps : Nat) (c : Cursor) (blanks : List Char)
    (broken : Bool) (acc : List (List Char)) : List Char × Bool × Cursor :=
  match steps with
  | 0 => (acc.reverse.flatten, broken, c)
  | steps + 1 =>
    let n := plainStretch inFlow c.rest
    if c.peek = some '#' ∨ n = 0 then (acc.reverse.flatten, broken, c)
    else
      let acc := c.rest.take n :: blanks :: acc
      let (blanks, broken, c) := plainBlanks (c.skip n)
      if blanks.isEmpty ∨ c.peek = some '#' ∨ (!inFlow ∧ c.column < indent) then
        (acc.reverse.flatten, broken, c)
      else plainBody inFlow indent steps c blanks broken acc

/-- A plain scalar, and whether it ended after a line break. -/
def scanPlain (inFlow : Bool) (indent : Nat) (c : Cursor) : Token × Bool × Cursor :=
  let (text, broken, c) := plainBody inFlow indent (c.rest.length + 1) c [] false []
  (.scalar (String.ofList text) true, broken, c)

/-- What is kept of the line breaks at the end of a block. -/
inductive Chomp
  | strip
  | clip
  | keep
  deriving DecidableEq

def chompMark? : Char → Option Chomp
  | '+' => some .keep
  | '-' => some .strip
  | _ => none

/-- A digit above zero gives the indent. -/
def indentMark (c : Cursor) : Scan (Option Nat × Cursor) :=
  match c.peek with
  | some d =>
    if d = '0' then refuse
    else if d.isDigit then .ok (some (d.toNat - '0'.toNat), c.skip 1)
    else .ok (none, c)
  | none => .ok (none, c)

/-- The marks after `|` or `>`, in either order. -/
def blockMarks (c : Cursor) : Scan (Chomp × Option Nat × Cursor) := do
  match c.peek.bind chompMark? with
  | some chomp =>
    let (indent, c) ← indentMark (c.skip 1)
    return (chomp, indent, c)
  | none =>
    let (indent, c) ← indentMark c
    match indent, c.peek.bind chompMark? with
    | some n, some chomp => return (chomp, some n, c.skip 1)
    | _, _ => return (.clip, indent, c)

/-- The rest of a line that may only hold a comment. -/
def restOfLine (c : Cursor) : Scan Cursor :=
  let c := c.skipSpaces.skipComment
  if isBreakOrEnd c.peek then .ok c.skipBreak else refuse

/-- Leading blank lines of a block, and the widest indent among them. -/
def blockLead (steps : Nat) (c : Cursor) (acc : List Char) (widest : Nat) :
    List Char × Nat × Cursor :=
  match steps with
  | 0 => (acc.reverse, widest, c)
  | steps + 1 =>
    let c := c.skipSpaces
    let widest := max widest c.column
    match c.lineBreak? with
    | some (b, c) => blockLead steps c (b :: acc) widest
    | none => (acc.reverse, widest, c)

/-- Blank lines between lines of a block with a known indent. -/
def blockBreaks (indent : Nat) (steps : Nat) (c : Cursor) (acc : List Char) : List Char × Cursor :=
  match steps with
  | 0 => (acc.reverse, c)
  | steps + 1 =>
    let c := c.skipIndent indent
    match c.lineBreak? with
    | some (b, c) => blockBreaks indent steps c (b :: acc)
    | none => (acc.reverse, c)

/-- What joins a line of a folded block to the next. -/
def blockJoin (folded : Bool) (breaks : List Char) (lineBreak : List Char) (opensBlank : Bool)
    (next : Option Char) : List Char :=
  if folded ∧ lineBreak = ['\n'] ∧ !opensBlank ∧ !(next.any isSpaceOrTab) then
    if breaks.isEmpty then [' '] else []
  else lineBreak

/-- The lines of a block, the last break and the blank lines after it. -/
def blockBody (folded : Bool) (indent : Nat) (steps : Nat) (c : Cursor) (breaks : List Char)
    (last : List Char) (acc : List (List Char)) :
    List (List Char) × List Char × List Char × Cursor :=
  match steps with
  | 0 => (acc, last, breaks, c)
  | steps + 1 =>
    if c.column ≠ indent ∨ c.atEnd then (acc, last, breaks, c)
    else
      let opensBlank := c.peek.any isSpaceOrTab
      let (text, c) := c.takeWhile (!isBreak ·)
      let acc := text :: breaks :: acc
      let last := (c.lineBreak?.map fun b => [b.1]).getD []
      let c := c.skipBreak
      let (breaks, c) := blockBreaks indent (c.rest.length + 1) c []
      if c.column = indent ∧ !c.atEnd then
        blockBody folded indent steps c breaks last
          (blockJoin folded breaks last opensBlank c.peek :: acc)
      else (acc, last, breaks, c)

/-- A block scalar in a structure indented to `parent`. -/
def scanBlock (folded : Bool) (least : Nat) (c : Cursor) : Scan (Token × Cursor) := do
  let (chomp, mark, c) ← blockMarks (c.skip 1)
  if !isSpaceBreakOrEnd c.peek then refuse
  else
    let c ← restOfLine c
    let (breaks, indent, c) := match mark with
      | none =>
        let (breaks, widest, c) := blockLead (c.rest.length + 1) c [] 0
        (breaks, max least widest, c)
      | some n =>
        let indent := least + n - 1
        let (breaks, c) := blockBreaks indent (c.rest.length + 1) c []
        (breaks, indent, c)
    let (acc, last, breaks, c) := blockBody folded indent (c.rest.length + 1) c breaks [] []
    let tail := match chomp with
      | .strip => []
      | .clip => last
      | .keep => last ++ breaks
    return (.scalar (String.ofList (acc.reverse.flatten ++ tail)) false, c)

end Quire.Yaml
