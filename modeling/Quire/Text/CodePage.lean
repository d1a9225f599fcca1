/-! Encodings of one byte for a character, each given by a table of sixteen
characters a row. -/

namespace Quire

/-- The table is complete or has its last eight rows only; the rows before those
and the empty ones number their characters as the bytes do. -/
structure CodePage where
  names : List String
  rows : List String
  deriving DecidableEq, Repr

namespace CodePage

/-- Stands in a table where a byte has no character. -/
def gap : Char := '\ufffe'

def rowLength : Nat := 16

/-- The row whose characters have the numbers of their bytes. -/
def plainRow (row : Nat) : List Char :=
  (List.range rowLength).map fun column => Char.ofNat (row * rowLength + column)

/-- The characters of all the bytes in order. -/
def table (p : CodePage) : Array Char :=
  let rows := List.replicate (rowLength - p.rows.length) "" ++ p.rows
  (rows.zipIdx.flatMap fun (s, row) => if s = "" then plainRow row else s.toList).toArray

/-- None if there is a byte without a character. -/
def decode? (p : CodePage) (bytes : List UInt8) : Option String :=
  let table := p.table
  let char? := fun b : UInt8 => table[b.toNat]?.filter (· ≠ gap)
  (bytes.mapM char?).map String.ofList

end CodePage
end Quire
