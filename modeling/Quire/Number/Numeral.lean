import Quire.Number
import Quire.Text.Blank
import Quire.Text.Quoted
import Quire.Text.Word

/-! Reading numbers from text that stands alone, as settings give them: blanks
around, digits of any script, single underscores between digits. -/

namespace Quire.Numeral

/-- Most digits a decimal whole number may have in text. -/
def digitLimit : Nat := 4300

def tooLong (count : Nat) : String :=
  "Exceeds the limit (4300 digits) for integer string conversion: value has " ++
    s!"{count} digits; use sys.set_int_max_str_digits() to increase the limit"

/-- What is said of a whole number with more digits than text may have. -/
def unwritable : String :=
  "Exceeds the limit (4300 digits) for integer string conversion; use "
    ++ "sys.set_int_max_str_digits() to increase the limit"

def firstUnwritable : Nat := Nat.pow 10 digitLimit

/-- Whether a whole number has few enough digits to be written out. -/
def isWritable (n : Int) : Bool := n.natAbs < firstUnwritable

/-- Of text that is no whole number so many characters are shown. -/
def shownLimit : Nat := 200

def notWhole (base : Nat) (shown : String) : String :=
  s!"invalid literal for int() with base {base}: " ++ String.ofList (shown.toList.take shownLimit)

def ofDigits (base : Nat) (digits : List Nat) : Nat := digits.foldl (fun n d => base * n + d) 0

def decimal (cs : List Char) : Nat := ofDigits 10 (cs.map fun c => c.toNat - '0'.toNat)

def hexValue? (c : Char) : Option Nat :=
  if c.isDigit then some (c.toNat - '0'.toNat)
  else if 'a' ≤ c ∧ c ≤ 'f' then some (c.toNat - 'a'.toNat + 10)
  else if 'A' ≤ c ∧ c ≤ 'F' then some (c.toNat - 'A'.toNat + 10)
  else none

/-- Digits with single underscores between them; a digit must come first. -/
def grouped : List Char → Option (List Nat)
  | [] => some []
  | '_' :: c :: rest => do
    let d ← Text.digitValue? c
    let ds ← grouped rest
    return d :: ds
  | c :: rest => do
    let d ← Text.digitValue? c
    let ds ← grouped rest
    return d :: ds

def digits? (cs : List Char) : Option (List Nat) :=
  match cs with
  | [] => none
  | '_' :: _ => none
  | _ => grouped cs

def signed (cs : List Char) : Bool × List Char :=
  match cs with
  | '-' :: rest => (true, rest)
  | '+' :: rest => (false, rest)
  | _ => (false, cs)

def negateIf (negative : Bool) (n : Nat) : Int := if negative then -(n : Int) else n

/-- Blanks that may surround a number: the four separators of files, groups,
records and units are not among them. -/
def isMargin (c : Char) : Bool := Text.isBlank c && !(0x1C ≤ c.toNat && c.toNat ≤ 0x1F)

/-- A whole number in decimal, from characters that a complaint shows as `shown`. -/
def wholeOf (cs : List Char) (shown : String) : Except String Int :=
  let (negative, body) := signed (Text.trim isMargin cs)
  match digits? body with
  | none => .error (notWhole 10 shown)
  | some ds =>
    if digitLimit < ds.length then .error (tooLong ds.length)
    else .ok (negateIf negative (ofDigits 10 ds))

def whole (s : String) : Except String Int := wholeOf s.toList (Text.quoted s)

/-- The digits up to a mark, and what follows the mark. -/
def cutAt (isMark : Char → Bool) (cs : List Char) : List Char × Option (List Char) :=
  match cs.dropWhile (!isMark ·) with
  | [] => (cs, none)
  | _ :: rest => (cs.takeWhile (!isMark ·), some rest)

/-- Digits, point and exponent, at least one digit before the exponent. -/
def realBody? (cs : List Char) : Option (Nat × Int) := do
  let (mantissa, exponent) := cutAt (fun c => c = 'e' || c = 'E') cs
  let (before, after) := cutAt (· = '.') mantissa
  let beforeDigits ← if before.isEmpty then some [] else digits? before
  let afterDigits ← match after with
    | none => some []
    | some [] => some []
    | some ds => digits? ds
  if beforeDigits.isEmpty && afterDigits.isEmpty then none
  else
    let power ← match exponent with
      | none => some (0 : Int)
      | some e => (digits? (signed e).2).map fun ds => negateIf (signed e).1 (ofDigits 10 ds)
    return (ofDigits 10 (beforeDigits ++ afterDigits), power - afterDigits.length)

def lowerAscii (cs : List Char) : String := String.ofList (cs.map Char.toLower)

/-- A floating point number, from characters that a complaint shows as `shown`;
infinity and NaN by name. -/
def realOf (cs : List Char) (shown : String) : Except String Binary64 :=
  let (negative, body) := signed (Text.trim isMargin cs)
  let name := lowerAscii body
  if name = "inf" ∨ name = "infinity" then .ok (.infinite negative)
  else if name = "nan" then .ok .undefined
  else match realBody? body with
    | some (n, e) => .ok (.ofDecimal negative n e)
    | none => .error ("could not convert string to float: " ++ shown)

def real (s : String) : Except String Binary64 := realOf s.toList (Text.quoted s)

end Quire.Numeral
