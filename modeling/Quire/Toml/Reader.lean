import Quire.Toml.Scalar

/-! Reading TOML. Tables are opened by headers and by dotted keys; what has been
opened or given a value in one way may not be opened again in another. -/

namespace Quire.Toml

/-- Key paths under which nothing may be added: `closed` themselves, `frozen`
with everything below. `pending` ones close at the next header. -/
structure Marks where
  closed : List (List String) := []
  frozen : List (List String) := []
  pending : List (List String) := []

namespace Marks

def isFrozen (m : Marks) (key : List String) : Bool :=
  !key.isEmpty && m.frozen.any fun p => p.isPrefixOf key

def isClosed (m : Marks) (key : List String) : Bool := m.closed.contains key

def close (m : Marks) (key : List String) : Marks := { m with closed := key :: m.closed }

def freeze (m : Marks) (key : List String) : Marks := { m with frozen := key :: m.frozen }

def closeLater (m : Marks) (key : List String) : Marks := { m with pending := key :: m.pending }

def settle (m : Marks) : Marks := { m with closed := m.pending ++ m.closed, pending := [] }

/-- Nothing is marked at the key or below it any more. -/
def clear (m : Marks) (key : List String) : Marks :=
  { m with
    closed := m.closed.filter fun p => !key.isPrefixOf p
    frozen := m.frozen.filter fun p => !key.isPrefixOf p }

end Marks

/-- Changes the table at the keys, opening tables on the way. An array of tables
stands for its last one, where that is allowed. -/
def within? (throughLists : Bool) (change : Entries → Scan Entries) (es : Entries) :
    List String → Scan Entries
  | [] => change es
  | k :: ks =>
    match Entries.field? es k with
    | none => do return Entries.putField es k (.map (← within? throughLists change [] ks))
    | some (.map inner) => do
      return Entries.putField es k (.map (← within? throughLists change inner ks))
    | some (.list xs) =>
      match throughLists, xs.getLast? with
      | true, some (.map inner) => do
        let last ← within? throughLists change inner ks
        return Entries.putField es k (.list (xs.dropLast ++ [.map last]))
      | _, _ => refuse
    | some _ => refuse

def addNew (name : String) (v : Value) (es : Entries) : Scan Entries :=
  if (Entries.field? es name).isSome then refuse else .ok (Entries.putField es name v)

/-- One more table in the array under the name. -/
def addElement (name : String) (es : Entries) : Scan Entries :=
  match Entries.field? es name with
  | none => .ok (Entries.putField es name (.list [.map []]))
  | some (.list xs) => .ok (Entries.putField es name (.list (xs ++ [.map []])))
  | some _ => refuse

/-- The parts of a key before the last, and the last. -/
def parentAndName (key : List String) : List String × String :=
  (key.dropLast, key.getLast?.getD "")

def holdsOthers : Value → Bool
  | .map _ => true
  | .list _ => true
  | _ => false

/-- The weight that nesting may come to: two for each array around a value, three
for each table between braces. -/
def nestingLimit : Nat := 975

/-- Checks that another collection can be opened. -/
def enter (nesting : Nat) : Scan Unit := if nesting < nestingLimit then .ok () else .error .tooDeep

mutual

def readValue (nesting steps : Nat) (cs : List Char) : Scan (Value × List Char) :=
  match steps with
  | 0 => refuse
  | steps + 1 =>
    match cs with
    | '"' :: _ | '\'' :: _ => do
      let (s, rest) ← readString cs
      return (.str s, rest)
    | '[' :: rest => do
      enter nesting
      let rest ← skipGaps (rest.length + 1) rest
      match rest with
      | ']' :: rest => return (.list [], rest)
      | rest => readItems (nesting + 2) steps [] rest
    | '{' :: rest => do
      enter nesting
      match skipBlanks rest with
      | '}' :: rest => return (.map [], rest)
      | rest => readPairs (nesting + 3) steps [] {} rest
    | _ => readPlain cs

def readItems (nesting steps : Nat) (acc : List Value) (cs : List Char) :
    Scan (Value × List Char) :=
  match steps with
  | 0 => refuse
  | steps + 1 => do
    let (v, rest) ← readValue nesting steps cs
    match ← skipGaps (rest.length + 1) rest with
    | ']' :: rest => return (.list (v :: acc).reverse, rest)
    | ',' :: rest =>
      match ← skipGaps (rest.length + 1) rest with
      | ']' :: rest => return (.list (v :: acc).reverse, rest)
      | rest => readItems nesting steps (v :: acc) rest
    | _ => refuse

def readPairs (nesting steps : Nat) (es : Entries) (marks : Marks) (cs : List Char) :
    Scan (Value × List Char) :=
  match steps with
  | 0 => refuse
  | steps + 1 => do
    let (key, v, rest) ← readPair nesting steps cs
    let (parent, name) := parentAndName key
    if marks.isFrozen key then refuse
    else
      let es ← within? false (addNew name v) es parent
      match skipBlanks rest with
      | '}' :: rest => return (.map es, rest)
      | ',' :: rest =>
        readPairs nesting steps es (if holdsOthers v then marks.freeze key else marks) (skipBlanks rest)
      | _ => refuse

/-- A key, the equals sign and a value. -/
def readPair (nesting steps : Nat) (cs : List Char) : Scan (List String × Value × List Char) :=
  match steps with
  | 0 => refuse
  | steps + 1 => do
    let (key, rest) ← readKey cs
    match rest with
    | '=' :: rest =>
      let (v, rest) ← readValue nesting steps (skipBlanks rest)
      return (key, v, rest)
    | _ => refuse

end

/-- A document being read: its tables so far, the marks on them, and the table
that keys are added to. -/
structure Document where
  root : Entries := []
  marks : Marks := {}
  header : List String := []

namespace Document

def openTable (d : Document) (cs : List Char) : Scan (Document × List Char) := do
  let (key, rest) ← readKey (skipBlanks cs)
  let marks := d.marks.settle
  if marks.isClosed key ∨ marks.isFrozen key then refuse
  else
    let root ← within? true .ok d.root key
    return ({ root, marks := marks.close key, header := key }, ← closing rest)
where
  closing : List Char → Scan (List Char)
    | ']' :: rest => .ok rest
    | _ => refuse

def openElement (d : Document) (cs : List Char) : Scan (Document × List Char) := do
  let (key, rest) ← readKey (skipBlanks cs)
  let marks := d.marks.settle
  if marks.isFrozen key then refuse
  else
    let (parent, name) := parentAndName key
    let root ← within? true (addElement name) d.root parent
    return ({ root, marks := (marks.clear key).close key, header := key }, ← closing rest)
where
  closing : List Char → Scan (List Char)
    | ']' :: ']' :: rest => .ok rest
    | _ => refuse

/-- The tables that a dotted key goes through, outermost first. -/
def passed (header key : List String) : List (List String) :=
  (List.range (key.length - 1)).map fun i => header ++ key.take (i + 1)

def assign (d : Document) (cs : List Char) : Scan (Document × List Char) := do
  let (key, v, rest) ← readPair 0 (2 * cs.length + 2) cs
  let (parent, name) := parentAndName key
  let through := passed d.header key
  if through.any d.marks.isClosed then refuse
  else if d.marks.isFrozen (d.header ++ parent) then refuse
  else
    let root ← within? true (addNew name v) d.root (d.header ++ parent)
    let marks := through.foldl Marks.closeLater d.marks
    let marks := if holdsOthers v then marks.freeze (d.header ++ key) else marks
    return ({ d with root, marks }, rest)

/-- What one line starts with: a header, a key, a comment or nothing. -/
def statement (d : Document) (cs : List Char) : Scan (Document × List Char) :=
  match cs with
  | '[' :: '[' :: rest => d.openElement rest
  | '[' :: rest => d.openTable rest
  | c :: _ =>
    if isBareKeyChar c ∨ c = '"' ∨ c = '\'' then d.assign cs
    else if c = '#' then .ok (d, cs)
    else refuse
  | [] => .ok (d, [])

def readLines (steps : Nat) (d : Document) (cs : List Char) : Scan Entries :=
  match steps with
  | 0 => refuse
  | steps + 1 =>
    match skipBlanks cs with
    | [] => .ok d.root
    | '\n' :: rest => readLines steps d rest
    | cs => do
      let (d, rest) ← d.statement cs
      match ← skipComment (skipBlanks rest) with
      | [] => return d.root
      | '\n' :: rest => readLines steps d rest
      | _ => refuse

end Document

/-- Trouble of another nature than bad form. -/
def Trouble.mishap? : Trouble → Option Mishap
  | .malformed => none
  | .tooManyDigits count => some (.badValue (Numeral.tooLong count))
  | .tooDeep => some (.tooDeep " in comparison")

/-- Where a text is malformed is not told. -/
def Trouble.message (e : Trouble) : String := (e.mishap?.map (·.text)).getD "<toml>"

/-- Line breaks of two characters count as one, in strings too. -/
def oneBreak : List Char → List Char
  | '\r' :: '\n' :: rest => '\n' :: oneBreak rest
  | c :: rest => c :: oneBreak rest
  | [] => []

/-- The top table of a text. -/
def read (s : String) : Scan Entries :=
  let cs := oneBreak s.toList
  ({} : Document).readLines (cs.length + 1) cs

end Quire.Toml
