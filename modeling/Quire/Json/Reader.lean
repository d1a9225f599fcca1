import Quire.Failure
import Quire.Number.Numeral

/-! Reading JSON. Whole numbers stay whole, `NaN` and the infinities have
names, and of two entries under one key the later value wins in the earlier
place. -/

namespace Quire.Json

inductive ReadError
  | malformed
  | tooManyDigits (count : Nat)
  | tooDeep (mapping : Bool)
  deriving DecidableEq, Repr

/-- Trouble of another nature than bad form. -/
def ReadError.mishap? : ReadError → Option Mishap
  | .tooDeep mapping => some (.tooDeep (" while decoding a JSON "
      ++ (if mapping then "object" else "array") ++ " from a unicode string"))
  | _ => none

/-- Where a text is malformed is not told. -/
def ReadError.message : ReadError → String
  | .tooManyDigits count => Numeral.tooLong count
  | _ => "<json>"

/-- Collections may be nested so deep and no deeper. -/
def nestingLimit : Nat := 980

def isGap (c : Char) : Bool := c = ' ' || c = '\t' || c = '\n' || c = '\r'

def skipGap (cs : List Char) : List Char := cs.dropWhile isGap

def hex4? (a b c d : Char) : Option Nat := do
  return Numeral.ofDigits 16 [← Numeral.hexValue? a, ← Numeral.hexValue? b,
    ← Numeral.hexValue? c, ← Numeral.hexValue? d]

def escape? : Char → Option Char
  | '"' => some '"'
  | '\\' => some '\\'
  | '/' => some '/'
  | 'b' => some '\x08'
  | 'f' => some '\x0c'
  | 'n' => some '\n'
  | 'r' => some '\r'
  | 't' => some '\t'
  | _ => none

def isHighUnit (n : Nat) : Bool := 0xD800 ≤ n && n < 0xDC00
def isLowUnit (n : Nat) : Bool := 0xDC00 ≤ n && n < 0xE000
def joinUnits (high low : Nat) : Nat := 0x10000 + (high - 0xD800) * 0x400 + (low - 0xDC00)

/-- The text up to the closing quote, latest character first, and the rest. -/
def readText (acc : List Char) : List Char → Option (List Char × List Char)
  | [] => none
  | '"' :: rest => some (acc, rest)
  | '\\' :: 'u' :: a :: b :: c :: d :: '\\' :: 'u' :: e :: f :: g :: h :: rest => do
    let first ← hex4? a b c d
    let second ← hex4? e f g h
    if isHighUnit first && isLowUnit second then
      readText (Text.charOfCode (joinUnits first second) :: acc) rest
    else readText (Text.charOfCode first :: acc) ('\\' :: 'u' :: e :: f :: g :: h :: rest)
  | '\\' :: 'u' :: a :: b :: c :: d :: rest => do
    let n ← hex4? a b c d
    readText (Text.charOfCode n :: acc) rest
  | '\\' :: e :: rest => do
    let c ← escape? e
    readText (c :: acc) rest
  | c :: rest => if c.toNat < 32 ∨ c = '\\' then none else readText (c :: acc) rest

/-- One digit at least, as a split of the text. -/
def digitsOf (cs : List Char) : Option (List Char × List Char) :=
  match cs.takeWhile Char.isDigit with
  | [] => none
  | ds => some (ds, cs.dropWhile Char.isDigit)

/-- The point and digits after a whole part, if both are there. -/
def fractionOf (cs : List Char) : List Char × List Char :=
  match cs with
  | '.' :: rest => (digitsOf rest).getD ([], cs)
  | _ => ([], cs)

/-- The exponent, if it is complete. -/
def exponentOf (cs : List Char) : Option Int × List Char :=
  match cs with
  | e :: rest =>
    if e = 'e' ∨ e = 'E' then
      let (negative, body) := Numeral.signed rest
      match digitsOf body with
      | some (ds, rest) => (some (Numeral.negateIf negative (Numeral.decimal ds)), rest)
      | none => (none, cs)
    else (none, cs)
  | [] => (none, cs)

/-- A whole part has no zeros in front. -/
def wholeOf (cs : List Char) : Option (List Char × List Char) :=
  match cs with
  | '0' :: rest => some (['0'], rest)
  | _ => digitsOf cs

def readNumber (cs : List Char) : Except ReadError (Value × List Char) :=
  let (negative, body) := match cs with
    | '-' :: rest => (true, rest)
    | _ => (false, cs)
  match wholeOf body with
  | none => .error .malformed
  | some (ds, rest) =>
    let (places, rest') := fractionOf rest
    let (power, rest'') := exponentOf rest'
    if places.isEmpty && power.isNone then
      if Numeral.digitLimit < ds.length then .error (.tooManyDigits ds.length)
      else .ok (.int (Numeral.negateIf negative (Numeral.decimal ds)), rest'')
    else .ok (.real (.ofDecimal negative (Numeral.decimal (ds ++ places))
      (power.getD 0 - places.length)), rest'')

/-- The one NaN that the word stands for. -/
def namedNaN : Binary64 := .nan 2

/-- The words that stand for values. -/
def word? (cs : List Char) : Option (Value × List Char) :=
  match cs with
  | 'n' :: 'u' :: 'l' :: 'l' :: rest => some (.null, rest)
  | 't' :: 'r' :: 'u' :: 'e' :: rest => some (.bool true, rest)
  | 'f' :: 'a' :: 'l' :: 's' :: 'e' :: rest => some (.bool false, rest)
  | 'N' :: 'a' :: 'N' :: rest => some (.real namedNaN, rest)
  | 'I' :: 'n' :: 'f' :: 'i' :: 'n' :: 'i' :: 't' :: 'y' :: rest =>
    some (.real (.infinite false), rest)
  | '-' :: 'I' :: 'n' :: 'f' :: 'i' :: 'n' :: 'i' :: 't' :: 'y' :: rest =>
    some (.real (.infinite true), rest)
  | _ => none

mutual

/-- One value at the start of the text, inside so many collections. Each call uses
one of the steps, and a text has no more steps than characters. -/
def readValue (depth : Nat) : Nat → List Char → Except ReadError (Value × List Char)
  | 0, _ => .error .malformed
  | steps + 1, cs =>
    match cs with
    | '"' :: rest =>
      match readText [] rest with
      | some (acc, rest) => .ok (.str (String.ofList acc.reverse), rest)
      | none => .error .malformed
    | '[' :: rest =>
      if nestingLimit ≤ depth then .error (.tooDeep false)
      else match skipGap rest with
        | ']' :: rest => .ok (.list [], rest)
        | rest => readItems (depth + 1) steps [] rest
    | '{' :: rest =>
      if nestingLimit ≤ depth then .error (.tooDeep true)
      else match skipGap rest with
        | '}' :: rest => .ok (.map [], rest)
        | rest => readFields (depth + 1) steps [] rest
    | _ =>
      match word? cs with
      | some found => .ok found
      | none => readNumber cs

def readItems (depth : Nat) :
    Nat → List Value → List Char → Except ReadError (Value × List Char)
  | 0, _, _ => .error .malformed
  | steps + 1, acc, cs => do
    let (v, rest) ← readValue depth steps cs
    match skipGap rest with
    | ',' :: rest => readItems depth steps (v :: acc) (skipGap rest)
    | ']' :: rest => return (.list (v :: acc).reverse, rest)
    | _ => throw .malformed

def readFields (depth : Nat) :
    Nat → List (Value × Value) → List Char → Except ReadError (Value × List Char)
  | 0, _, _ => .error .malformed
  | steps + 1, acc, cs =>
    match cs with
    | '"' :: rest =>
      match readText [] rest with
      | none => .error .malformed
      | some (key, rest) =>
        match skipGap rest with
        | ':' :: rest => do
          let (v, rest) ← readValue depth steps (skipGap rest)
          let acc := (.str (String.ofList key.reverse), v) :: acc
          match skipGap rest with
          | ',' :: rest => readFields depth steps acc (skipGap rest)
          | '}' :: rest => return (.map (Entries.ofList acc.reverse), rest)
          | _ => throw .malformed
        | _ => .error .malformed
    | _ => .error .malformed

end

/-- The one value that a text holds. -/
def read (s : String) : Except ReadError Value := do
  let cs := s.toList
  let (v, rest) ← readValue 0 (2 * cs.length + 2) (skipGap cs)
  if (skipGap rest).isEmpty then return v else throw .malformed

end Quire.Json
