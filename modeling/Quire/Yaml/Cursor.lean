import Quire.Number.Numeral

/-! A place in a YAML text, and the moves that later scanning is made of. -/

namespace Quire.Yaml

/-- Reading fails because the text is not well formed, because a scalar that is
has no value of its kind, or because nesting goes too deep. -/
inductive Trouble
  | malformed
  | badValue (text : String)
  | noIndex
  | noKey (name : String)
  | noField (text : String)
  | badKind (text : String)
  | overflow (text : String)
  | endless
  deriving DecidableEq, Repr

def isBreak (c : Char) : Bool :=
  c = '\n' || c = '\r' || c = '\u0085' || c = '\u2028' || c = '\u2029'

def isSpace (c : Char) : Bool := c = ' '
def isSpaceOrTab (c : Char) : Bool := c = ' ' || c = '\t'

/-- Characters that may stand in a text at all. -/
def isAllowed (c : Char) : Bool :=
  let n := Text.codeOf c
  n = 9 || n = 10 || n = 13 || (0x20 ≤ n && n ≤ 0x7E) || n = 0x85 || (0xA0 ≤ n && n ≤ 0xD7FF)
    || (0xE000 ≤ n && n ≤ 0xFFFD) || 0x10000 ≤ n

structure Cursor where
  rest : List Char
  line : Nat
  column : Nat
  index : Nat

namespace Cursor

def ofText (cs : List Char) : Cursor := ⟨cs, 0, 0, 0⟩

def peek (c : Cursor) : Option Char := c.rest.head?
def peekAt (c : Cursor) (n : Nat) : Option Char := (c.rest.drop n).head?

def atEnd (c : Cursor) : Bool := c.rest.isEmpty

/-- Moves over `n` characters of one line. A byte order mark has no width. -/
def skip (c : Cursor) (n : Nat) : Cursor :=
  { rest := c.rest.drop n
    line := c.line
    column := c.column + ((c.rest.take n).filter (· != '\ufeff')).length
    index := c.index + n }

def lineAfter (c : Cursor) (rest : List Char) (width : Nat) : Cursor :=
  { rest, line := c.line + 1, column := 0, index := c.index + width }

/-- A line break at the cursor, as the character it counts for. -/
def lineBreak? (c : Cursor) : Option (Char × Cursor) :=
  match c.rest with
  | '\r' :: '\n' :: rest => some ('\n', c.lineAfter rest 2)
  | d :: rest =>
    if d = '\u2028' ∨ d = '\u2029' then some (d, c.lineAfter rest 1)
    else if isBreak d then some ('\n', c.lineAfter rest 1)
    else none
  | [] => none

def skipBreak (c : Cursor) : Cursor := (c.lineBreak?.map (·.2)).getD c

/-- The characters up to the first that fails the test, and the place there. -/
def takeWhile (c : Cursor) (p : Char → Bool) : List Char × Cursor :=
  let taken := c.rest.takeWhile p
  (taken, c.skip taken.length)

def skipWhile (c : Cursor) (p : Char → Bool) : Cursor := (c.takeWhile p).2

def skipSpaces (c : Cursor) : Cursor := c.skipWhile isSpace

def skipComment (c : Cursor) : Cursor :=
  if c.peek = some '#' then c.skipWhile (!isBreak ·) else c

/-- Spaces only until the column is reached. -/
def skipIndent (c : Cursor) (column : Nat) : Cursor :=
  c.skip (min (column - c.column) (c.rest.takeWhile isSpace).length)

end Cursor

/-- The end of the text or a character with the property. -/
def endOr (p : Char → Bool) : Option Char → Bool
  | none => true
  | some c => p c

def isBlankOrEnd : Option Char → Bool := endOr fun c => isSpaceOrTab c || isBreak c
def isSpaceBreakOrEnd : Option Char → Bool := endOr fun c => c = ' ' || isBreak c
def isBreakOrEnd : Option Char → Bool := endOr isBreak

/-- A line of three dashes or dots starts here. -/
def Cursor.atSeparator (c : Cursor) : Bool :=
  match c.rest with
  | '-' :: '-' :: '-' :: rest => isBlankOrEnd rest.head?
  | '.' :: '.' :: '.' :: rest => isBlankOrEnd rest.head?
  | _ => false

def isNameChar (c : Char) : Bool := c.isAlphanum || c = '-' || c = '_'

end Quire.Yaml
