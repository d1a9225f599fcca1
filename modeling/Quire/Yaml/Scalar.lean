import Quire.Text.Case
import Quire.Value
import Quire.Yaml.Token

/-! What a scalar stands for. Plain text is matched against the forms of truth
values, numbers, dates and the rest; a tag can ask for a kind outright. The
forms are tests on characters, and the reading of each is beside them. -/

namespace Quire.Yaml

inductive Kind
  | null | bool | int | real | str | sequence | mapping | binary | timestamp
  | orderedPairs | pairs | set | merge | default | unknown
  deriving DecidableEq, Repr

def coreTag : String := "tag:yaml.org,2002:"

def Kind.ofName : String → Kind
  | "null" => .null
  | "bool" => .bool
  | "int" => .int
  | "float" => .real
  | "str" => .str
  | "seq" => .sequence
  | "map" => .mapping
  | "binary" => .binary
  | "timestamp" => .timestamp
  | "omap" => .orderedPairs
  | "pairs" => .pairs
  | "set" => .set
  | "merge" => .merge
  | "value" => .default
  | _ => .unknown

def Kind.ofTag (tag : String) : Kind :=
  match tag.dropPrefix? coreTag with
  | some name => .ofName name.toString
  | none => .unknown

namespace Scalar

def trueWords : List String := ["yes", "Yes", "YES", "true", "True", "TRUE", "on", "On", "ON"]
def falseWords : List String := ["no", "No", "NO", "false", "False", "FALSE", "off", "Off", "OFF"]
def nullWords : List String := ["~", "null", "Null", "NULL", ""]

def isDigitOrMark (c : Char) : Bool := c.isDigit || c = '_'

/-- Without a sign in front. -/
def unsigned (cs : List Char) : List Char := (Numeral.signed cs).2

/-- `:` and a number below sixty, at least once. -/
def sixties : List Char → Option (List Char)
  | ':' :: a :: b :: rest =>
    if a.isDigit ∧ b.isDigit ∧ a ≤ '5' then some ((sixties rest).getD rest)
    else if a.isDigit then some ((sixties (b :: rest)).getD (b :: rest))
    else none
  | [':', a] => if a.isDigit then some [] else none
  | _ => none

/-- Nothing, or an exponent with its sign. -/
def isExponent : List Char → Bool
  | [] => true
  | e :: sign :: ds =>
    (e = 'e' || e = 'E') && (sign = '-' || sign = '+') && !ds.isEmpty && ds.all Char.isDigit
  | _ => false

/-- What follows the point of a number. -/
def isFraction (cs : List Char) : Bool := isExponent (cs.dropWhile isDigitOrMark)

def infinityWords : List String := [".inf", ".Inf", ".INF"]
def nanWords : List String := [".nan", ".NaN", ".NAN"]

def isReal (cs : List Char) : Bool :=
  let body := unsigned cs
  let opensWithDigit := body.head?.any Char.isDigit
  let afterDigits := body.dropWhile isDigitOrMark
  (opensWithDigit && afterDigits.head? = some '.' && isFraction (afterDigits.drop 1))
    || (cs.head? = some '.' && (cs.drop 1).head?.any Char.isDigit && isFraction (cs.drop 1))
    || (opensWithDigit && match sixties afterDigits with
      | some ('.' :: rest) => rest.all isDigitOrMark
      | _ => false)
    || infinityWords.contains (String.ofList body)
    || nanWords.contains (String.ofList cs)

def allThenSome (p : Char → Bool) (cs : List Char) : Bool := !cs.isEmpty && cs.all p

def isInt (cs : List Char) : Bool :=
  let body := unsigned cs
  match body with
  | ['0'] => true
  | '0' :: 'b' :: rest => allThenSome (fun c => c = '0' || c = '1' || c = '_') rest
  | '0' :: 'x' :: rest => allThenSome (fun c => (Numeral.hexValue? c).isSome || c = '_') rest
  | '0' :: rest => allThenSome (fun c => ('0' ≤ c && c ≤ '7') || c = '_') rest
  | d :: rest =>
    d.isDigit && (match rest.dropWhile isDigitOrMark with
      | [] => true
      | more => sixties more = some [])
  | [] => false

/-- One or two digits, and the rest. -/
def oneOrTwo : List Char → Option (Nat × List Char)
  | a :: b :: rest =>
    if a.isDigit ∧ b.isDigit then some (Numeral.decimal [a, b], rest)
    else if a.isDigit then some (Numeral.decimal [a], b :: rest)
    else none
  | [a] => if a.isDigit then some (Numeral.decimal [a], []) else none
  | [] => none

def two : List Char → Option (Nat × List Char)
  | a :: b :: rest =>
    if a.isDigit ∧ b.isDigit then some (Numeral.decimal [a, b], rest) else none
  | _ => none

def four : List Char → Option (Nat × List Char)
  | a :: b :: c :: d :: rest =>
    if [a, b, c, d].all Char.isDigit then some (Numeral.decimal [a, b, c, d], rest) else none
  | _ => none

def after (c : Char) : List Char → Option (List Char)
  | d :: rest => if d = c then some rest else none
  | [] => none

structure Clock where
  hour : Nat
  minute : Nat
  second : Nat
  micro : Nat
  zone : Option Int

/-- A point and digits, of which six count. -/
def microsOf : List Char → Nat × List Char
  | '.' :: rest =>
    let ds := rest.takeWhile Char.isDigit
    let six := ds.take 6 ++ List.replicate (6 - ds.length) '0'
    (Numeral.decimal six, rest.dropWhile Char.isDigit)
  | cs => (0, cs)

/-- Nothing, `Z`, or a signed offset in hours and minutes, up to the end. -/
def zoneOf (cs : List Char) : Option (Option Int) :=
  match cs, cs.dropWhile isSpaceOrTab with
  | [], _ => some none
  | _, ['Z'] => some (some 0)
  | _, sign :: rest =>
    if sign = '-' ∨ sign = '+' then do
      let (hours, rest) ← oneOrTwo rest
      let minutes ← match rest with
        | [] => some 0
        | _ => do
          let (m, rest) ← two (← after ':' rest)
          if rest.isEmpty then some m else none
      return some (Numeral.negateIf (sign = '-') (hours * 3600 + minutes * 60))
    else none
  | _, _ => none

def clockOf (cs : List Char) : Option Clock := do
  let (hour, rest) ← oneOrTwo cs
  let (minute, rest) ← two (← after ':' rest)
  let (second, rest) ← two (← after ':' rest)
  let (micro, rest) := microsOf rest
  return { hour, minute, second, micro, zone := ← zoneOf rest }

/-- The parts of a timestamp; the time of day may be missing. -/
def timestampOf (cs : List Char) : Option (Nat × Nat × Nat × Option Clock) := do
  let (year, rest) ← four cs
  let (month, rest) ← oneOrTwo (← after '-' rest)
  let (day, rest) ← oneOrTwo (← after '-' rest)
  match rest with
  | [] => return (year, month, day, none)
  | c :: more =>
    if c = 'T' ∨ c = 't' then return (year, month, day, some (← clockOf more))
    else if isSpaceOrTab c then
      return (year, month, day, some (← clockOf (more.dropWhile isSpaceOrTab)))
    else none

/-- A date alone must have two digits for month and day to count as one. -/
def isTimestamp (cs : List Char) : Bool :=
  match timestampOf cs with
  | some (_, _, _, none) => cs.length = 10
  | some (_, _, _, some _) => true
  | none => false

/-- The kind that plain text has by its form. A line break at the very end does
not count. -/
def kindOf (text : String) : Kind :=
  let cs := text.toList
  let cs := if cs.getLast? = some '\n' then cs.dropLast else cs
  let s := String.ofList cs
  if text.isEmpty then .null
  else if cs.isEmpty then .str
  else if trueWords.contains s ∨ falseWords.contains s then .bool
  else if isReal cs then .real
  else if isInt cs then .int
  else if s = "<<" then .merge
  else if nullWords.contains s then .null
  else if isTimestamp cs then .timestamp
  else if s = "=" then .default
  else if s = "!" ∨ s = "&" ∨ s = "*" then .unknown
  else .str

def withoutMarks (text : String) : List Char := text.toList.filter (· != '_')

/-- Digits of a base, blanks around and a prefix for the base allowed. -/
def digitsIn (base : Nat) (cs : List Char) : Scan Int :=
  let bad : Scan Int := .error (.badValue (Numeral.notWhole base (Text.quoted (String.ofList cs))))
  let (negative, body) := Numeral.signed (Text.trim Numeral.isMargin cs)
  let lead := match base with
    | 2 => "bB"
    | 8 => "oO"
    | _ => "xX"
  let body := match body with
    | '0' :: c :: d :: rest => if lead.toList.contains c then d :: rest else body
    | _ => body
  if body.isEmpty then bad
  else
    let valueOf := fun c => match Text.digitValue? c with
      | some n => some n
      | none => Numeral.hexValue? c
    match body.mapM valueOf with
    | some ds =>
      if ds.all (· < base) then .ok (Numeral.negateIf negative (Numeral.ofDigits base ds)) else bad
    | none => bad

def wholeIn (cs : List Char) : Scan Int :=
  match Numeral.whole (String.ofList cs) with
  | .ok n => .ok n
  | .error message => .error (.badValue message)

/-- Parts separated by colons, each worth sixty of the next. -/
def sixtiesOf (cs : List Char) : Scan Int := do
  let parts ← ((String.ofList cs).splitOn ":").mapM fun part => wholeIn part.toList
  return parts.foldl (fun n d => 60 * n + d) 0

def readInt (text : String) : Scan Int := do
  let cs := withoutMarks text
  if cs.isEmpty then throw .noIndex
  else
    let (negative, body) := Numeral.signed cs
    let flip := fun n : Int => if negative then -n else n
    match body with
    | ['0'] => return 0
    | '0' :: 'b' :: rest => return flip (← digitsIn 2 rest)
    | '0' :: 'x' :: rest => return flip (← digitsIn 16 rest)
    | '0' :: rest => return flip (← digitsIn 8 ('0' :: rest))
    | [] => throw .noIndex
    | _ => return flip (← if body.contains ':' then sixtiesOf body else wholeIn body)

def realIn (cs : List Char) : Scan Binary64 :=
  match Numeral.real (String.ofList cs) with
  | .ok x => .ok x
  | .error message => .error (.badValue message)

def orOverflow (x : Option Binary64) : Scan Binary64 :=
  match x with
  | some x => .ok x
  | none => .error (.overflow "int too large to convert to float")

/-- The worth of a place as a floating point number. -/
def placeValue (n : Nat) : Scan Binary64 := orOverflow (Number.whole n).toReal?

/-- Parts separated by colons, added up in floating point from the last. -/
def sixtiesReal (cs : List Char) : Scan Binary64 := do
  let parts ← ((String.ofList cs).splitOn ":").mapM fun part => realIn part.toList
  let total ← parts.reverse.foldlM (fun (acc : Binary64 × Nat) d => do
    return (acc.1.add (d.mul (← placeValue acc.2)), acc.2 * 60)) (.zero, 1)
  return total.1

/-- The one NaN that its word stands for. -/
def namedNaN : Binary64 := .nan 1

def readReal (text : String) : Scan Binary64 := do
  let cs := (Text.lower (String.ofList (withoutMarks text))).toList
  if cs.isEmpty then throw .noIndex
  else
    let (negative, body) := Numeral.signed cs
    let flip := fun x : Binary64 => if negative then x.neg else x
    if body = ".inf".toList then return flip (.infinite false)
    else if body = ".nan".toList then return namedNaN
    else return flip (← if body.contains ':' then sixtiesReal body else realIn body)

def readBool (text : String) : Scan Bool :=
  let word := Text.lower text
  if ["yes", "true", "on"].contains word then .ok true
  else if ["no", "false", "off"].contains word then .ok false
  else .error (.noKey word)

def calendar {α : Type} (r : Except CalendarError α) : Scan α :=
  match r with
  | .ok a => .ok a
  | .error e => .error (.badValue e.message)

def readTimestamp (text : String) : Scan Value := do
  let cs := text.toList
  let cs := if cs.getLast? = some '\n' then cs.dropLast else cs
  match timestampOf cs with
  | none => throw (.noField "'NoneType' object has no attribute 'groupdict'")
  | some (year, month, day, none) => return .date (← calendar (Date.of? year month day))
  | some (year, month, day, some clock) =>
    let offset ← match clock.zone with
      | none => pure none
      | some seconds => some <$> calendar (checkOffset seconds)
    let date ← calendar (Date.of? year month day)
    let time ← calendar (TimeOfDay.of? clock.hour clock.minute clock.second clock.micro)
    return .moment ⟨date, time, offset⟩

def sextet? (c : Char) : Option Nat :=
  if 'A' ≤ c ∧ c ≤ 'Z' then some (c.toNat - 'A'.toNat)
  else if 'a' ≤ c ∧ c ≤ 'z' then some (c.toNat - 'a'.toNat + 26)
  else if c.isDigit then some (c.toNat - '0'.toNat + 52)
  else if c = '+' then some 62
  else if c = '/' then some 63
  else none

/-- Groups of six bits to bytes. `place` counts the groups of the current four,
`pads` the padding after them; other characters are passed over. -/
def bytesOf (place left pads : Nat) (acc : List UInt8) : List Char → Option (List UInt8)
  | [] => if place = 0 then some acc.reverse else none
  | c :: rest =>
    if c = '=' then
      if 2 ≤ place then
        if 4 ≤ place + pads + 1 then some acc.reverse else bytesOf place left (pads + 1) acc rest
      else bytesOf place left pads acc rest
    else match sextet? c with
      | none => bytesOf place left pads acc rest
      | some n =>
        match place with
        | 0 => bytesOf 1 n 0 acc rest
        | 1 => bytesOf 2 (n % 16) 0 (UInt8.ofNat (left * 4 + n / 16) :: acc) rest
        | 2 => bytesOf 3 (n % 4) 0 (UInt8.ofNat (left * 16 + n / 4) :: acc) rest
        | _ => bytesOf 0 0 0 (UInt8.ofNat (left * 64 + n) :: acc) rest

def readBinary (text : String) : Scan (List UInt8) :=
  let cs := text.toList
  if cs.any fun c => 128 ≤ c.toNat then refuse
  else match bytesOf 0 0 0 [] cs with
    | some bytes => .ok bytes
    | none => refuse

end Scalar
end Quire.Yaml
