/-! Sets of characters in which each character has a row and a place, both
numbered from one. -/

namespace Quire

/-- Rows by their numbers; a blank stands where there is no character. -/
structure CharacterSet where
  rows : Array (Array Char)

namespace CharacterSet

/-- Rows in the order of their numbers, those without characters left out. -/
def ofRows (rows : List (Nat × String)) : CharacterSet :=
  ⟨rows.foldl (fun done (number, cells) =>
    (done ++ Array.replicate (number - done.size) #[]).push cells.toList.toArray) #[]⟩

def at? (s : CharacterSet) (row : Nat) : Nat → Option Char
  | 0 => none
  | place + 1 => do (← s.rows[row]?)[place]?.filter (· ≠ ' ')

def chars (s : CharacterSet) : List Char :=
  s.rows.toList.flatMap fun row => row.toList.filter (· ≠ ' ')

/-- The characters from `first` to before `stop` that are not taken, in their order. -/
def untaken (taken : List Char) (first stop : Nat) : Array Char :=
  let marks := taken.foldl (fun marks c => marks.setIfInBounds c.toNat true)
    (Array.replicate stop false)
  ((List.range' first (stop - first)).filterMap fun n =>
    if h : n.isValidChar then
      if marks[n]?.getD true then none else some (Char.ofNatAux n h)
    else none).toArray

/-- Characters in a row, from a pair of bytes on that differ in the second only. -/
structure Run where
  first : Nat
  second : Nat
  cells : String

def Run.at? (r : Run) (a b : Nat) : Option Char :=
  if r.first = a ∧ r.second ≤ b then (r.cells.toList[b - r.second]?).filter (· ≠ ' ') else none

/-- The character of a pair of bytes in the first run that has one. -/
def among (runs : List Run) (a b : Nat) : Option Char := runs.findSome? (·.at? a b)

end CharacterSet
end Quire
