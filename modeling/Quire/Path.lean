import Quire.Text.Blank
import Quire.Value.Sequence

/-! Dot paths into nested mappings: `a.b[].c`. A piece that ends in `[]` stands
for every element of the sequence found there. Writing rebuilds the mappings on
the way and leaves everything beside it as it was. -/

namespace Quire

structure Segment where
  key : String
  expand : Bool
  deriving DecidableEq, Repr

inductive PathError
  | blank
  | emptySegment (path : String)
  | malformed (piece path : String)
  | readsOne (path : String)
  | writesOne (path : String)
  deriving DecidableEq, Repr

def PathError.message : PathError → String
  | .blank => "path must be a non-empty string"
  | .emptySegment path => "empty segment in path " ++ Text.quoted path
  | .malformed piece path =>
    "malformed array segment " ++ Text.quoted piece ++ " in path " ++ Text.quoted path
  | .readsOne path => "get_value does not expand arrays: " ++ Text.quoted path
  | .writesOne path => "cannot write through an array segment: " ++ Text.quoted path

def PathError.toMishap (e : PathError) : Mishap := .badValue e.message

instance : MonadLift (Except PathError) (Except Mishap) where
  monadLift
    | .ok a => .ok a
    | .error e => .error e.toMishap

instance : MonadLift (Except PathError) (Except Failure) where
  monadLift
    | .ok a => .ok a
    | .error e => .error (.mishap e.toMishap)

/-- The stretches between separators, at least one. -/
def splitChars (separator : Char) : List Char → List (List Char)
  | [] => [[]]
  | c :: cs =>
    match splitChars separator cs with
    | [] => [[]]
    | piece :: pieces => if c = separator then [] :: piece :: pieces else (c :: piece) :: pieces

theorem splitChars_ne_nil (separator : Char) (cs : List Char) : splitChars separator cs ≠ [] := by
  induction cs with
  | nil => simp [splitChars]
  | cons c cs ih =>
    unfold splitChars
    cases h : splitChars separator cs with
    | nil => exact absurd h ih
    | cons piece pieces => by_cases hc : c = separator <;> simp [hc]

/-- The text before a trailing `[]`, if there is one. -/
def unbracket (cs : List Char) : Option (List Char) :=
  match cs.reverse with
  | ']' :: '[' :: rest => some rest.reverse
  | _ => none

@[simp] theorem unbracket_append (cs : List Char) : unbracket (cs ++ ['[', ']']) = some cs := by
  simp [unbracket]

namespace Segment

def ofPiece (path : String) (piece : List Char) : Except PathError Segment :=
  let expand := (unbracket piece).isSome
  let key := (unbracket piece).getD piece
  if key.isEmpty then .error (.emptySegment path)
  else if key.contains '[' || key.contains ']' then
    .error (.malformed (String.ofList piece) path)
  else .ok ⟨String.ofList key, expand⟩

def render (s : Segment) : String := s.key ++ if s.expand then "[]" else ""

end Segment

namespace Path

/-- Blanks around the path do not count. -/
def parse (path : String) : Except PathError (List Segment) :=
  if Text.isAllBlank path then .error .blank
  else (splitChars '.' (Text.stripChars path.toList)).mapM (Segment.ofPiece path)

/-- A path must be text. -/
def parseValue : Value → Except PathError (List Segment)
  | .str s => parse s
  | _ => .error .blank

def render (segments : List Segment) : String :=
  ".".intercalate (segments.map Segment.render)

/-- The values one segment further on from a value. -/
def step (s : Segment) : Value → List Value
  | .map es =>
    match Entries.field? es s.key with
    | none => []
    | some v => if s.expand then v.elements?.getD [] else [v]
  | _ => []

/-- All values at the end of the segments, one segment at a time. -/
def reach (values : List Value) : List Segment → List Value
  | [] => values
  | s :: rest => reach (values.flatMap (step s)) rest

/-- What a value at the end contributes: nothing when null, a list its items
that are not null. -/
def leaves : Value → List Value
  | .null => []
  | .list xs => xs.filter fun x => !x.isNull
  | v => [v]

def collectAt (data : Value) (segments : List Segment) : List Value :=
  (reach [data] segments).flatMap leaves

def collect (data : Value) (path : String) : Except PathError (List Value) := do
  return collectAt data (← parse path)

/-- The one value at the end of the segments; none when a key is missing. A
segment that expands is refused when it is reached. -/
def lookup (path : String) (data : Value) : List Segment → Except PathError (Option Value)
  | [] => .ok (some data)
  | s :: rest =>
    if s.expand then .error (.readsOne path)
    else match data with
      | .map es =>
        match Entries.field? es s.key with
        | none => .ok none
        | some v => lookup path v rest
      | _ => .ok none

def get (data : Value) (path : String) : Except PathError (Option Value) := do
  lookup path data (← parse path)

/-- The one value, unless it stands for nothing itself. -/
def find (data : Value) (path : String) : Except PathError (Option Value) := do
  return Value.present (← get data path)

def has (data : Value) (path : String) : Except PathError Bool := do
  return (← find data path).isSome

/-- The mapping to write into: what is not a mapping gives way to an empty one. -/
def inner : Option Value → Entries
  | some (.map es) => es
  | _ => []

def write (es : Entries) (keys : List String) (value : Value) : Entries :=
  match keys with
  | [] => es
  | [k] => Entries.putField es k value
  | k :: rest => Entries.putField es k (.map (write (inner (Entries.field? es k)) rest value))

/-- The keys of a path without expansion. -/
def plainKeys (path : String) : Except PathError (List String) := do
  let segments ← parse path
  if segments.any (·.expand) then .error (.writesOne path)
  else return segments.map (·.key)

def set (es : Entries) (path : String) (value : Value) : Except PathError Entries := do
  return write es (← plainKeys path) value

/-- Writing into any value that can be taken as a mapping; a bad path is
noticed first. -/
def setIn (data : Value) (path : Value) (value : Value) : Except Mishap Entries := do
  let keys ← match path with
    | .str s => plainKeys s
    | _ => throw PathError.blank.toMishap
  return write (← data.toEntries) keys value

mutual

/-- The values below nested lists, depth first. -/
def flattenValue : Value → List Value
  | .list xs => flatten xs
  | v => [v]

def flatten : List Value → List Value
  | [] => []
  | x :: xs => flattenValue x ++ flatten xs

end

mutual

/-- Whether lists within lists come back to one that is around them. -/
def isEndless : Value → Bool
  | .list xs => anyEndless xs
  | .cycle mapping => !mapping
  | _ => false

def anyEndless : List Value → Bool
  | [] => false
  | x :: xs => isEndless x || anyEndless xs

end

theorem flatten_append (xs ys : List Value) : flatten (xs ++ ys) = flatten xs ++ flatten ys := by
  induction xs with
  | nil => rfl
  | cons x xs ih => simp [flatten, ih]

/-- The data with the list at the path flattened to one level; none when there
is no list. -/
def flattenAt? (data : Value) (path : String) : Except PathError (Option Entries) := do
  match data, ← get data path with
  | .map es, some (.list xs) => return some (← set es path (.list (flatten xs)))
  | _, _ => return none

def flattenAt (es : Entries) (path : String) : Except PathError Entries := do
  return (← flattenAt? (.map es) path).getD es

end Path
end Quire
