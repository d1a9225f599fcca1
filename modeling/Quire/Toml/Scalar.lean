import Quire.Failure
import Quire.Number.Numeral

/-! Strings, numbers, dates and keys of TOML. Each reader takes the text at hand
and gives back what follows the part it used. -/

namespace Quire.Toml

inductive Trouble
  | malformed
  | tooManyDigits (count : Nat)
  | tooDeep
  deriving DecidableEq, Repr

abbrev Scan (α : Type) := Except Trouble α

def refuse {α : Type} : Scan α := .error .malformed

def isBlank (c : Char) : Bool := c = ' ' || c = '\t'
def isControl (c : Char) : Bool := c.toNat < 32 || c.toNat = 127

def skipBlanks (cs : List Char) : List Char := cs.dropWhile isBlank
def skipBlanksAndLines (cs : List Char) : List Char := cs.dropWhile fun c => isBlank c || c = '\n'

/-- Past a comment, which may hold no control character but the tab. -/
def skipComment (cs : List Char) : Scan (List Char) :=
  match cs with
  | '#' :: rest =>
    if (rest.takeWhile (· != '\n')).any (fun c => isControl c && c != '\t') then refuse
    else .ok (rest.dropWhile (· != '\n'))
  | _ => .ok cs

/-- Blanks, line breaks and comments between the items of an array. -/
def skipGaps (steps : Nat) (cs : List Char) : Scan (List Char) :=
  match steps with
  | 0 => .ok cs
  | steps + 1 => do
    let next ← skipComment (skipBlanksAndLines cs)
    if next.length = cs.length then return cs else skipGaps steps next

def shortEscape? : Char → Option Char
  | 'b' => some '\x08'
  | 't' => some '\t'
  | 'n' => some '\n'
  | 'f' => some '\x0c'
  | 'r' => some '\r'
  | '"' => some '"'
  | '\\' => some '\\'
  | _ => none

def hexEscape (width : Nat) (cs : List Char) : Scan (Char × List Char) :=
  let digits := cs.take width
  match digits.mapM Numeral.hexValue? with
  | none => refuse
  | some ds =>
    let n := Numeral.ofDigits 16 ds
    if ds.length = width ∧ n.isValidChar then .ok (Char.ofNat n, cs.drop width) else refuse

/-- What follows a backslash. In text of several lines a backslash before the
end of a line takes the blanks and breaks after it away. -/
def readEscape (multiline : Bool) (cs : List Char) : Scan (List Char × List Char) :=
  match cs with
  | [] => refuse
  | c :: rest =>
    if multiline ∧ c = '\n' then .ok ([], skipBlanksAndLines rest)
    else if multiline ∧ isBlank c then
      match skipBlanks rest with
      | [] => .ok ([], [])
      | '\n' :: rest => .ok ([], skipBlanksAndLines rest)
      | _ => refuse
    else if c = 'u' then do
      let (d, rest) ← hexEscape 4 rest
      return ([d], rest)
    else if c = 'U' then do
      let (d, rest) ← hexEscape 8 rest
      return ([d], rest)
    else match shortEscape? c with
      | some d => .ok ([d], rest)
      | none => refuse

def isRefused (multiline : Bool) (c : Char) : Bool :=
  isControl c && c != '\t' && !(multiline && c = '\n')

/-- Text up to the closing quotes, latest character first. -/
def basicBody (multiline : Bool) (steps : Nat) (acc cs : List Char) :
    Scan (List Char × List Char) :=
  match steps with
  | 0 => refuse
  | steps + 1 =>
    match cs with
    | [] => refuse
    | '"' :: rest =>
      if !multiline then .ok (acc, rest)
      else match rest with
        | '"' :: '"' :: rest => .ok (acc, rest)
        | _ => basicBody multiline steps ('"' :: acc) rest
    | '\\' :: rest => do
      let (text, rest) ← readEscape multiline rest
      basicBody multiline steps (text.reverse ++ acc) rest
    | c :: rest => if isRefused multiline c then refuse else basicBody multiline steps (c :: acc) rest

/-- Text without escapes up to the closing quotes, latest character first. -/
def literalBody (multiline : Bool) (acc : List Char) : List Char → Scan (List Char × List Char)
  | [] => refuse
  | c :: rest =>
    if c = '\'' ∧ !multiline then .ok (acc, rest)
    else if c = '\'' ∧ rest.take 2 = ['\'', '\''] then .ok (acc, rest.drop 2)
    else if isRefused multiline c then refuse
    else literalBody multiline (c :: acc) rest

/-- Up to two quotes right before the closing three belong to the text. -/
def extraQuotes (quote : Char) (acc cs : List Char) : List Char × List Char :=
  match cs with
  | a :: b :: rest =>
    if a = quote ∧ b = quote then (quote :: quote :: acc, rest)
    else if a = quote then (quote :: acc, b :: rest)
    else (acc, cs)
  | [a] => if a = quote then (quote :: acc, []) else (acc, cs)
  | [] => (acc, cs)

def dropFirstBreak (cs : List Char) : List Char :=
  match cs with
  | '\n' :: rest => rest
  | _ => cs

/-- A string of one line in either kind of quotes. -/
def readLineString (cs : List Char) : Scan (String × List Char) := do
  match cs with
  | '"' :: rest =>
    let (acc, rest) ← basicBody false (rest.length + 1) [] rest
    return (String.ofList acc.reverse, rest)
  | '\'' :: rest =>
    let (acc, rest) ← literalBody false [] rest
    return (String.ofList acc.reverse, rest)
  | _ => refuse

def readString (cs : List Char) : Scan (String × List Char) := do
  match cs with
  | '"' :: '"' :: '"' :: rest =>
    let rest := dropFirstBreak rest
    let (acc, rest) ← basicBody true (rest.length + 1) [] rest
    let (acc, rest) := extraQuotes '"' acc rest
    return (String.ofList acc.reverse, rest)
  | '\'' :: '\'' :: '\'' :: rest =>
    let (acc, rest) ← literalBody true [] (dropFirstBreak rest)
    let (acc, rest) := extraQuotes '\'' acc rest
    return (String.ofList acc.reverse, rest)
  | _ => readLineString cs

def isBareKeyChar (c : Char) : Bool := c.isAlphanum || c = '-' || c = '_'

def readKeyPart (cs : List Char) : Scan (String × List Char) :=
  if cs.head?.any isBareKeyChar then
    .ok (String.ofList (cs.takeWhile isBareKeyChar), cs.dropWhile isBareKeyChar)
  else readLineString cs

/-- Parts of a key with dots between them; blanks after it are used up. -/
def readKeyParts (steps : Nat) (acc : List String) (cs : List Char) :
    Scan (List String × List Char) :=
  match steps with
  | 0 => refuse
  | steps + 1 => do
    let (part, rest) ← readKeyPart cs
    match skipBlanks rest with
    | '.' :: rest => readKeyParts steps (part :: acc) (skipBlanks rest)
    | rest => return ((part :: acc).reverse, rest)

def readKey (cs : List Char) : Scan (List String × List Char) :=
  readKeyParts (cs.length + 1) [] cs

/-- Digits with single underscores between them, as far as they go. -/
def groupedDigits (isDigit : Char → Bool) (cs : List Char) : List Char × List Char :=
  match cs with
  | [] => ([], [])
  | c :: rest => if isDigit c then more [c] rest else ([], cs)
where
  more (acc : List Char) : List Char → List Char × List Char
    | '_' :: c :: rest => if isDigit c then more (c :: acc) rest else (acc.reverse, '_' :: c :: rest)
    | c :: rest => if isDigit c then more (c :: acc) rest else (acc.reverse, c :: rest)
    | [] => (acc.reverse, [])

def isBinary (c : Char) : Bool := c = '0' || c = '1'
def isOctal (c : Char) : Bool := '0' ≤ c && c ≤ '7'
def isHex (c : Char) : Bool := (Numeral.hexValue? c).isSome

/-- A whole number in base two, eight or sixteen. -/
def based? (cs : List Char) : Option (Int × List Char) :=
  let read := fun (base : Nat) (isDigit : Char → Bool) (rest : List Char) =>
    match groupedDigits isDigit rest with
    | ([], _) => none
    | (ds, rest) => some (((Numeral.ofDigits base (ds.filterMap Numeral.hexValue?) : Nat) : Int), rest)
  match cs with
  | '0' :: 'x' :: rest => read 16 isHex rest
  | '0' :: 'b' :: rest => read 2 isBinary rest
  | '0' :: 'o' :: rest => read 8 isOctal rest
  | _ => none

def wholePart (cs : List Char) : List Char × List Char :=
  match cs with
  | '0' :: rest => (['0'], rest)
  | _ => groupedDigits Char.isDigit cs

def fractionPart (cs : List Char) : List Char × List Char :=
  match cs with
  | '.' :: rest =>
    match groupedDigits Char.isDigit rest with
    | ([], _) => ([], cs)
    | found => found
  | _ => ([], cs)

def exponentPart (cs : List Char) : Option Int × List Char :=
  match cs with
  | e :: rest =>
    if e = 'e' ∨ e = 'E' then
      let (negative, body) := Numeral.signed rest
      match groupedDigits Char.isDigit body with
      | ([], _) => (none, cs)
      | (ds, rest) => (some (Numeral.negateIf negative (Numeral.decimal ds)), rest)
    else (none, cs)
  | [] => (none, cs)

def readDecimal (cs : List Char) : Scan (Value × List Char) :=
  let (negative, body) := Numeral.signed cs
  match wholePart body with
  | ([], _) => refuse
  | (ds, rest) =>
    let (places, rest) := fractionPart rest
    let (power, rest) := exponentPart rest
    if places.isEmpty && power.isNone then
      if Numeral.digitLimit < ds.length then .error (.tooManyDigits ds.length)
      else .ok (.int (Numeral.negateIf negative (Numeral.decimal ds)), rest)
    else .ok (.real (.ofDecimal negative (Numeral.decimal (ds ++ places))
      (power.getD 0 - places.length)), rest)

/-- Infinity and NaN by name, with or without a sign. -/
def specialReal? (cs : List Char) : Option (Value × List Char) :=
  let (negative, body) := Numeral.signed cs
  match body with
  | 'i' :: 'n' :: 'f' :: rest => some (.real (.infinite negative), rest)
  | 'n' :: 'a' :: 'n' :: rest => some (.real .undefined, rest)
  | _ => none

/-- Exactly `n` digits. -/
def fixedDigits (n : Nat) (cs : List Char) : Option (Nat × List Char) :=
  let ds := cs.take n
  if ds.length = n ∧ ds.all Char.isDigit then some (Numeral.decimal ds, cs.drop n) else none

def expect (c : Char) : List Char → Option (List Char)
  | d :: rest => if d = c then some rest else none
  | [] => none

def within (low high : Nat) (found : Nat × List Char) : Option (Nat × List Char) :=
  if low ≤ found.1 ∧ found.1 ≤ high then some found else none

def fractionDigits (cs : List Char) : Nat × List Char :=
  match cs with
  | '.' :: rest =>
    match rest.takeWhile Char.isDigit with
    | [] => (0, cs)
    | ds => (Numeral.decimal (ds.take 6 ++ List.replicate (6 - ds.length) '0'),
        rest.dropWhile Char.isDigit)
  | _ => (0, cs)

def clock? (cs : List Char) : Option (TimeOfDay × List Char) := do
  let (hour, rest) ← (← fixedDigits 2 cs) |> within 0 23
  let (minute, rest) ← (← fixedDigits 2 (← expect ':' rest)) |> within 0 59
  let (second, rest) ← (← fixedDigits 2 (← expect ':' rest)) |> within 0 59
  let (micro, rest) := fractionDigits rest
  return (⟨hour, minute, second, micro⟩, rest)

def offset? (cs : List Char) : Option (Int × List Char) :=
  match cs with
  | c :: rest =>
    if c = 'Z' ∨ c = 'z' then some (0, rest)
    else if c = '+' ∨ c = '-' then do
      let (hours, rest) ← (← fixedDigits 2 rest) |> within 0 23
      let (minutes, rest) ← (← fixedDigits 2 (← expect ':' rest)) |> within 0 59
      return (Numeral.negateIf (c = '-') (hours * 3600 + minutes * 60), rest)
    else none
  | [] => none

def dateFields? (cs : List Char) : Option ((Nat × Nat × Nat) × List Char) := do
  let (year, rest) ← fixedDigits 4 cs
  let (month, rest) ← (← fixedDigits 2 (← expect '-' rest)) |> within 1 12
  let (day, rest) ← (← fixedDigits 2 (← expect '-' rest)) |> within 1 31
  return ((year, month, day), rest)

def timeAfterDate? (cs : List Char) : Option (TimeOfDay × List Char) :=
  match cs with
  | c :: rest => if c = 'T' ∨ c = 't' ∨ c = ' ' then clock? rest else none
  | [] => none

/-- A date, a date with a time, or a time alone; none when the text is no
such thing. -/
def temporal? (cs : List Char) : Option (Scan (Value × List Char)) :=
  match dateFields? cs with
  | some ((year, month, day), rest) => some <|
    match Date.of? year month day with
    | .error _ => refuse
    | .ok date =>
      match timeAfterDate? rest with
      | none => .ok (.date date, rest)
      | some (time, rest) =>
        match offset? rest with
        | some (seconds, rest) => .ok (.moment ⟨date, time, some seconds⟩, rest)
        | none => .ok (.moment ⟨date, time, none⟩, rest)
  | none => (clock? cs).map fun found => .ok (.time found.1, found.2)

/-- Values that hold no others, strings apart. -/
def readPlain (cs : List Char) : Scan (Value × List Char) :=
  match cs with
  | 't' :: 'r' :: 'u' :: 'e' :: rest => .ok (.bool true, rest)
  | 'f' :: 'a' :: 'l' :: 's' :: 'e' :: rest => .ok (.bool false, rest)
  | _ =>
    match temporal? cs, based? cs with
    | some found, _ => found
    | none, some (n, rest) => .ok (.int n, rest)
    | none, none =>
      if (Numeral.signed cs).2.head?.any Char.isDigit then readDecimal cs
      else match specialReal? cs with
        | some found => .ok found
        | none => refuse

end Quire.Toml
