import Quire.Number.Numeral
import Quire.Text.Surrogate

/-! Text in which characters may be written by their numbers after a backslash.
Every other byte is the character of its number. In the short form only the
numbers after `u` and `U` are read, in the full form also those of one or two
digits, octal ones and the letters for controls. -/

namespace Quire.Text.Escape

def isOctal (c : Char) : Bool := '0' ≤ c && c ≤ '7'

/-- The character that an escape of one letter stands for. -/
def letter? : Char → Option Char
  | '\\' => some '\\'
  | '\'' => some '\''
  | '"' => some '"'
  | 'a' => some '\x07'
  | 'b' => some '\x08'
  | 'f' => some '\x0c'
  | 'n' => some '\n'
  | 'r' => some '\r'
  | 't' => some '\t'
  | 'v' => some '\x0b'
  | _ => none

/-- How many digits follow the letter that announces a number. -/
def width? : Char → Option Nat
  | 'x' => some 2
  | 'u' => some 4
  | 'U' => some 8
  | _ => none

/-- A character by its number, of which all digits must be there. -/
def numbered (width : Nat) (cs : List Char) : Option Char := do
  let ds := cs.take width
  if ds.length < width then none
  else
    let n ← (ds.mapM Numeral.hexValue?).map fun ds => ds.foldl (fun n d => 16 * n + d) 0
    if n ≤ 0x10FFFF then some (charOfCode n) else none

def octalValue (ds : List Char) : Nat := ds.foldl (fun n d => 8 * n + (d.toNat - 48)) 0

/-- The characters after a backslash that belong to its escape, and what they
stand for. An escape that is not known stands for itself. -/
def full? : List Char → Option (List Char × Nat)
  | [] => none
  | 'N' :: _ => none
  | '\n' :: _ => some ([], 1)
  | c :: rest =>
    match letter? c, width? c with
    | some d, _ => some ([d], 1)
    | none, some width => (numbered width rest).map fun d => ([d], width + 1)
    | none, none =>
      if isOctal c then
        let ds := (c :: rest.take 2).takeWhile isOctal
        some ([Char.ofNat (octalValue ds)], ds.length)
      else some (['\\', c], 1)

def short? : List Char → Option (List Char × Nat)
  | [] => some (['\\'], 0)
  | c :: rest =>
    match width? c with
    | some 2 => some (['\\', c], 1)
    | some width => (numbered width rest).map fun d => ([d], width + 1)
    | none => some (['\\', c], 1)

/-- Text with its escapes read; none where one is broken off or out of range. -/
def decode? (read? : List Char → Option (List Char × Nat)) (cs : List Char) :
    Option (List Char) :=
  match cs with
  | [] => some []
  | '\\' :: rest => do
    let (text, length) ← read? rest
    return text ++ (← decode? read? (rest.drop length))
  | c :: rest => do return c :: (← decode? read? rest)
termination_by cs.length

end Quire.Text.Escape
