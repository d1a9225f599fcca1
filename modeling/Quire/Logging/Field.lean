import Quire.Number.Precise
import Quire.Number.Numeral
import Quire.Value.Shown

/-! How a value is written in a field of given width: as text, as a whole number
to one of several bases, as a number with a fraction, or as one character. A
value that does not suit the form is not written at all. -/

namespace Quire.Layout

/-- How a field is written: its side, filling, width, limit and form. -/
structure Style where
  flags : List Char := []
  width : Nat := 0
  limit : Option Nat := none
  form : Char := 's'

namespace Style

def has (s : Style) (flag : Char) : Bool := s.flags.contains flag

def fill (width : Nat) (mark : Char) (cs : List Char) : List Char :=
  List.replicate (width - cs.length) mark

/-- On the left where the style says so, and on the right otherwise. -/
def place (s : Style) (cs : List Char) : List Char :=
  if s.has '-' then cs ++ fill s.width ' ' cs else fill s.width ' ' cs ++ cs

def text (s : Style) (cs : List Char) : List Char := s.place ((s.limit.map cs.take).getD cs)

def sign (s : Style) (negative : Bool) : List Char :=
  if negative then ['-']
  else if s.has '+' then ['+']
  else if s.has ' ' then [' ']
  else []

/-- What stands before the digits stays there when zeros fill the width. -/
def numeral (s : Style) (start digits : List Char) : List Char :=
  if s.has '0' && !s.has '-' then start ++ fill (s.width - start.length) '0' digits ++ digits
  else s.place (start ++ digits)

/-- A whole number to a base, of which a mark tells where the style asks for it. -/
def whole (s : Style) (base : Nat) (mark : List Char) (n : Int) : List Char :=
  let digits := Nat.toDigits base n.natAbs
  let start := s.sign (decide (n < 0)) ++ if s.has '#' then mark else []
  s.numeral start (fill (s.limit.getD 0) '0' digits ++ digits)

def real (s : Style) (form : Binary64.Form) (x : Binary64) : List Char :=
  let cs := x.precise form (s.has '#') (s.limit.getD 6)
  let negative := cs.head? = some '-'
  s.numeral (s.sign negative) (if negative then cs.tail else cs)

/-- The whole part of a number. -/
def wholePart? (v : Value) : Option Int :=
  match v.number? with
  | some (.whole n) => some n
  | some (.real x) => x.truncate?
  | none => none

def wholeOnly? (v : Value) : Option Int :=
  match v.number? with
  | some (.whole n) => some n
  | _ => none

def real? (v : Value) : Option Binary64 := v.number?.bind Number.toReal?

def character? (v : Value) : Option (List Char) :=
  match v with
  | .str s => if s.length = 1 then some s.toList else none
  | v => do
    let n ← wholeOnly? v
    if 0 ≤ n ∧ n < 0x110000 then some [Text.charOfCode n.toNat] else none

def escapeWide (c : Char) : List Char :=
  let n := Text.codeOf c
  if n < 0x80 then [c]
  else if n < 0x100 then '\\' :: 'x' :: Text.hexDigits 2 n
  else if n < 0x10000 then '\\' :: 'u' :: Text.hexDigits 4 n
  else '\\' :: 'U' :: Text.hexDigits 8 n

def upper (cs : List Char) : List Char := cs.map Char.toUpper

/-- The value as the style has it. -/
def write? (s : Style) (v : Value) : Option (List Char) :=
  match s.form with
  | 's' => some (s.text v.plain.toList)
  | 'r' => some (s.text v.shown.toList)
  | 'a' => some (s.text (v.shown.toList.flatMap escapeWide))
  | 'c' => (character? v).map s.place
  | 'd' => (wholePart? v).map (s.whole 10 [])
  | 'i' => (wholePart? v).map (s.whole 10 [])
  | 'u' => (wholePart? v).map (s.whole 10 [])
  | 'o' => (wholeOnly? v).map (s.whole 8 ['0', 'o'])
  | 'x' => (wholeOnly? v).map (s.whole 16 ['0', 'x'])
  | 'X' => (wholeOnly? v).map fun n => upper (s.whole 16 ['0', 'x'] n)
  | 'f' => (real? v).map (s.real .places)
  | 'F' => (real? v).map fun x => upper (s.real .places x)
  | 'e' => (real? v).map (s.real .scientific)
  | 'E' => (real? v).map fun x => upper (s.real .scientific x)
  | 'g' => (real? v).map (s.real .general)
  | 'G' => (real? v).map fun x => upper (s.real .general x)
  | _ => none

end Style
end Quire.Layout
