import Quire.Failure
import Quire.Value.Extent
import Quire.Yaml.Scalar

/-! Writing YAML in block form, two columns a level, lines folded after column
80. Text is written plain where it reads back as the same text, in single
quotes where they suffice, and in double quotes otherwise. -/

namespace Quire.Yaml

/-- Text so far, and what the end of it allows next: `gap` that no space is
needed, `margin` that only indentation stands on the line. -/
structure Pen where
  out : String := ""
  column : Nat := 0
  gap : Bool := true
  margin : Bool := true
  /-- A plain scalar ends the document, so an end mark has to follow. -/
  openEnded : Bool := false

namespace Pen

def width : Nat := 80

def put (p : Pen) (cs : List Char) : Pen :=
  { p with out := p.out ++ String.ofList cs, column := p.column + cs.length }

def lineBreak (p : Pen) (c : Char) : Pen :=
  { p with out := p.out.push c, column := 0, gap := true, margin := true }

def indicator (p : Pen) (mark : List Char) (needsGap gap margin : Bool) : Pen :=
  let p := p.put (if p.gap || !needsGap then mark else ' ' :: mark)
  { p with gap, margin := p.margin && margin, openEnded := false }

/-- To the column, on a new line unless only indentation stands on this one. -/
def indentTo (p : Pen) (column : Nat) : Pen :=
  let p := if !p.margin || column < p.column || (p.column = column && !p.gap)
    then p.lineBreak '\n' else p
  if p.column < column then
    { p.put (List.replicate (column - p.column) ' ') with gap := true }
  else p

/-- As inside a scalar, where neither a gap nor the margin counts. -/
def inside (p : Pen) : Pen := { p with gap := false, margin := false }

end Pen

def isLineEnd (c : Char) : Bool :=
  c = '\n' || c = '\u0085' || c = '\u2028' || c = '\u2029'

/-- What the characters of a text allow. -/
structure Analysis where
  isEmpty : Bool
  multiline : Bool
  plain : Bool
  single : Bool

def isOpenIndicator (c : Char) : Bool := "#,[]\x7b\x7d&*!|>'\"%@`".toList.contains c

def isGapOrBreak (c : Char) : Bool :=
  c = '\x00' || isSpaceOrTab c || c = '\r' || isLineEnd c

/-- Characters that must be written as escapes. -/
def isSpecial (c : Char) : Bool :=
  let n := Text.codeOf c
  !(c = '\n' || (0x20 ≤ n && n ≤ 0x7E) ||
    ((n = 0x85 || (0xA0 ≤ n && n ≤ 0xD7FF) || (0xE000 ≤ n && n ≤ 0xFFFD) ||
      (0x10000 ≤ n && n < 0x10FFFF)) && n != 0xFEFF))

/-- Marks that keep a text from being plain: at its start, and further on. -/
def opensAsIndicator : List Char → Bool
  | [] => false
  | c :: rest =>
    let ends := rest.head?.all isGapOrBreak
    isOpenIndicator c || ((c = '?' || c = ':' || c = '-') && ends)

def holdsIndicator (previous : Char) : List Char → Bool
  | [] => false
  | c :: rest =>
    (c = ':' && rest.head?.all isGapOrBreak) || (c = '#' && isGapOrBreak previous)
      || holdsIndicator c rest

def hasPair (first second : Char → Bool) : List Char → Bool
  | a :: b :: rest => (first a && second b) || hasPair first second (b :: rest)
  | _ => false

def analyze (cs : List Char) : Analysis :=
  match cs with
  | [] => ⟨true, false, true, true⟩
  | c :: rest =>
    let space := fun d => d = ' '
    let edge := fun d => space d || isLineEnd d
    let special := cs.any isSpecial || hasPair space isLineEnd cs
    let breakSpace := hasPair isLineEnd space cs
    let multiline := cs.any isLineEnd
    let separator := cs.take 3 = ['-', '-', '-'] || cs.take 3 = ['.', '.', '.']
    let marks := separator || opensAsIndicator cs || holdsIndicator c rest
    { isEmpty := false
      multiline
      plain := !(special || breakSpace || multiline || marks || edge c
        || cs.getLast?.any edge)
      single := !(special || breakSpace) }

inductive Style
  | plain
  | single
  | double
  deriving DecidableEq

/-- `readsAsText` tells whether the plain form would be taken for the same. -/
def chooseStyle (a : Analysis) (isKey readsAsText : Bool) : Style :=
  if readsAsText && !(isKey && (a.isEmpty || a.multiline)) && a.plain then .plain
  else if a.single && !(isKey && a.multiline) then .single
  else .double

/-- A plain scalar without line breaks: words, and the spaces between them. A
single space may give way to a fold. -/
def writePlain (folds : Bool) (indent : Nat) (p : Pen) (cs : List Char) (steps : Nat) : Pen :=
  match steps with
  | 0 => p
  | steps + 1 =>
    match cs with
    | [] => p
    | ' ' :: _ =>
      let spaces := cs.takeWhile (· = ' ')
      let p := if spaces.length = 1 && Pen.width < p.column && folds
        then (p.indentTo indent).inside else p.put spaces
      writePlain folds indent p (cs.drop spaces.length) steps
    | _ =>
      let word := cs.takeWhile (· != ' ')
      writePlain folds indent (p.put word) (cs.drop word.length) steps

def isSingleStop (c : Char) : Bool := c = ' ' || isLineEnd c || c = '\''

/-- The inside of single quotes. `first` holds at the very start. -/
def writeSingle (folds : Bool) (indent : Nat) (p : Pen) (first : Bool) (cs : List Char)
    (steps : Nat) : Pen :=
  match steps with
  | 0 => p
  | steps + 1 =>
    match cs with
    | [] => p
    | c :: rest =>
      if c = ' ' then
        let spaces := cs.takeWhile (· = ' ')
        let after := cs.drop spaces.length
        let p := if spaces.length = 1 && Pen.width < p.column && folds && !first && !after.isEmpty
          then p.indentTo indent else p.put spaces
        writeSingle folds indent p false after steps
      else if isLineEnd c then
        let breaks := cs.takeWhile isLineEnd
        let p := if c = '\n' then p.lineBreak '\n' else p
        let p := breaks.foldl (fun p b => p.lineBreak b) p
        writeSingle folds indent (p.indentTo indent) false (cs.drop breaks.length) steps
      else if c = '\'' then writeSingle folds indent (p.put ['\'', '\'']) false rest steps
      else
        let word := cs.takeWhile (!isSingleStop ·)
        writeSingle folds indent (p.put word) false (cs.drop word.length) steps

def escapeLetter? : Char → Option Char
  | '\x00' => some '0'
  | '\x07' => some 'a'
  | '\x08' => some 'b'
  | '\t' => some 't'
  | '\n' => some 'n'
  | '\x0b' => some 'v'
  | '\x0c' => some 'f'
  | '\r' => some 'r'
  | '\x1b' => some 'e'
  | '"' => some '"'
  | '\\' => some '\\'
  | '\u0085' => some 'N'
  | '\u00a0' => some '_'
  | '\u2028' => some 'L'
  | '\u2029' => some 'P'
  | _ => none

def needsEscape (c : Char) : Bool :=
  let n := Text.codeOf c
  c = '"' || c = '\\' || n = 0x85 || n = 0x2028 || n = 0x2029 || n = 0xFEFF ||
    !((0x20 ≤ n && n ≤ 0x7E) || (0xA0 ≤ n && n ≤ 0xD7FF) || (0xE000 ≤ n && n ≤ 0xFFFD))

def upperHex (width n : Nat) : List Char := (Text.hexDigits width n).map Char.toUpper

def escape (c : Char) : List Char :=
  match escapeLetter? c with
  | some letter => ['\\', letter]
  | none =>
    let n := Text.codeOf c
    if n ≤ 0xFF then '\\' :: 'x' :: upperHex 2 n
    else if n ≤ 0xFFFF then '\\' :: 'u' :: upperHex 4 n
    else '\\' :: 'U' :: upperHex 8 n

/-- The inside of double quotes. `held` are characters not written yet, latest
first; a line folds before a space, or after an escape, once it is full. -/
def writeDouble (folds : Bool) (indent : Nat) (p : Pen) (first : Bool) (held : List Char) :
    List Char → Pen
  | [] => p.put held.reverse
  | c :: rest =>
    let escapes := needsEscape c
    let p := if escapes then (p.put held.reverse).put (escape c) else p
    let held := if escapes then [] else held
    let mayFold := !first && !rest.isEmpty && (c = ' ' || escapes || held.isEmpty)
    let reached := if escapes then p.column - 1 else p.column + held.length
    if mayFold && Pen.width < reached && folds then
      let p := (((p.put held.reverse).put ['\\']).indentTo indent).inside
      let next := if escapes then rest.head? else some c
      let p := if next = some ' ' then p.put ['\\'] else p
      writeDouble folds indent p false (if escapes then [] else [c]) rest
    else writeDouble folds indent p false (if escapes then held else c :: held) rest

def writeText (p : Pen) (indent : Nat) (isRoot isKey : Bool) (cs : List Char)
    (readsAsText : Bool) : Pen :=
  match chooseStyle (analyze cs) isKey readsAsText with
  | .plain =>
    let p := { p with openEnded := p.openEnded || isRoot }
    if cs.isEmpty then p
    else
      let p := if p.gap then p else p.put [' ']
      writePlain (!isKey) indent p.inside cs (cs.length + 1)
  | .single =>
    let p := p.indicator ['\''] true false false
    (writeSingle (!isKey) indent p true cs (cs.length + 1)).indicator ['\''] false false false
  | .double =>
    let p := p.indicator ['"'] true false false
    (writeDouble (!isKey) indent p true [] cs).indicator ['"'] false false false

/-- The whole part of a mantissa gets a point, for the exponent to be one. -/
def realText : Binary64 → String
  | .nan _ => ".nan"
  | .infinite false => ".inf"
  | .infinite true => "-.inf"
  | x =>
    let cs := x.text.toList
    if cs.contains '.' ∨ !cs.contains 'e' then x.text
    else String.ofList (cs.takeWhile (· != 'e') ++ ['.', '0'] ++ cs.dropWhile (· != 'e'))

/-- Characters of a scalar, and whether they read back plain as what they are. -/
def scalarText : Value → List Char × Bool
  | .null => ("null".toList, true)
  | .bool b => ((if b then "true" else "false").toList, true)
  | .int n => ((toString n).toList, true)
  | .real x => ((realText x).toList, true)
  | v => (v.plain.toList, Scalar.kindOf v.plain = .str)

inductive Place
  | root
  | item
  | value
  | key
  deriving DecidableEq

def Place.inMapping : Place → Bool
  | .value | .key => true
  | _ => false

/-- Keys that fit on a line with their colon: not empty, of one line, and short
enough with the five characters of the tag that text could carry. -/
def isSimpleKey (cs : List Char) : Bool :=
  !cs.isEmpty && !cs.any isLineEnd && cs.length + 5 < 128

def deeper (indent : Option Nat) : Nat := (indent.map (· + 2)).getD 0

def writeScalar (p : Pen) (indent : Option Nat) (place : Place) (v : Value) : Pen :=
  let (cs, readsAsText) := scalarText v
  writeText p ((indent.map (· + 2)).getD 2) (place = .root) (place = .key) cs readsAsText

def writeKey (p : Pen) (indent : Nat) (key : Value) : Pen :=
  let p := p.indentTo indent
  if isSimpleKey (scalarText key).1 then
    (writeScalar p (some indent) .key key).indicator [':'] false false false
  else
    let p := writeScalar (p.indicator ['?'] true false true) (some indent) .value key
    (p.indentTo indent).indicator [':'] true false true

mutual

def writeNode (p : Pen) (indent : Option Nat) (place : Place) : Value → Pen
  | .list [] => (p.indicator ['['] true true false).indicator [']'] false false false
  | .tuple [] => (p.indicator ['['] true true false).indicator [']'] false false false
  | .map [] => (p.indicator ['\x7b'] true true false).indicator ['\x7d'] false false false
  | .list xs =>
    let indent := if place.inMapping && !p.margin then indent.getD 0 else deeper indent
    writeItems p indent xs
  | .tuple xs =>
    let indent := if place.inMapping && !p.margin then indent.getD 0 else deeper indent
    writeItems p indent xs
  | .map es => writeFields p (deeper indent) es
  | v => writeScalar p indent place v

def writeItems (p : Pen) (indent : Nat) : List Value → Pen
  | [] => p
  | x :: xs =>
    let p := (p.indentTo indent).indicator ['-'] true false true
    writeItems (writeNode p (some indent) .item x) indent xs

def writeFields (p : Pen) (indent : Nat) : List (Value × Value) → Pen
  | [] => p
  | (k, v) :: es => writeFields (writeNode (writeKey p indent k) (some indent) .value v) indent es

end

mutual

/-- The tree with text for every key, and text for what YAML text does not
have a form for here: dates, times, bytes, sets and marks of absence. -/
def plainTree : Value → Value
  | .null => .null
  | .bool b => .bool b
  | .int n => .int n
  | .real x => .real x
  | .str s => .str s
  | .list xs => .list (plainItems xs)
  | .tuple xs => .list (plainItems xs)
  | .map es => .map (Entries.ofList (plainFields es))
  | .date d => .str d.text
  | .moment m => .str m.text
  | .time t => .str t.text
  | .bytes b => .str (Text.quotedBytes b)
  | .set xs => .str (Value.set xs).shown
  | .missing copy => .str (Value.missing copy).shown
  | .cycle mapping => .str (Value.cycle mapping).shown

def plainItems : List Value → List Value
  | [] => []
  | x :: xs => plainTree x :: plainItems xs

def plainFields : List (Value × Value) → List (Value × Value)
  | [] => []
  | (k, v) :: es => (k.toText, plainTree v) :: plainFields es

end

/-- Collections may be nested so deep and no deeper. -/
def depthLimit : Nat := 325

/-- What keeps a value from being written: nesting, or a number with too many
digits. -/
def obstacle? (v : Value) : Option Mishap :=
  if v.isDeeper depthLimit then some (.tooDeep " in comparison")
  else if !v.isWritable then some (.badValue Numeral.unwritable)
  else none

/-- The text of a value without an obstacle. -/
def write (v : Value) : String :=
  let p := (writeNode {} none .root (plainTree v)).indentTo 0
  let p := if p.openEnded then (p.indicator ['.', '.', '.'] true false false).indentTo 0 else p
  p.out

end Quire.Yaml
