import Quire.Value

/-! The order in which a set shows its members. Numbers are spread over slots,
a power of two of them, by their remainders; one that finds its slot taken goes
on to those after it and then further away. Members of other kinds stay in the
order in which they came. -/

namespace Quire.Value

namespace Slots

/-- Eight slots for up to four members, and else the first power of two above
twice their number. -/
def count (members : Nat) : Nat :=
  if members ≤ 4 then 8 else max 8 (Nat.pow 2 ((2 * members).log2 + 1))

/-- Remainders are taken by this prime, of which the powers of two have few. -/
def modulus : Nat := Nat.pow 2 61 - 1

/-- A remainder with a sign as a number of 64 bits. Minus one is not in use. -/
def signedCode (negative : Bool) (n : Nat) : Nat :=
  let r := n % modulus
  if !negative || r = 0 then r
  else if r = 1 then Nat.pow 2 64 - 2
  else Nat.pow 2 64 - r

/-- The code of a number: equal numbers have one, whatever their kinds. A unit of
a floating point number counts as `2 ^ 24`, so that one counts as one. -/
def code? (v : Value) : Option Nat :=
  match v.number? with
  | some (.whole n) => some (signedCode (n < 0) n.natAbs)
  | some (.real (.finite negative units)) => some (signedCode negative (units * Nat.pow 2 24))
  | some (.real (.infinite negative)) => some (signedCode negative 314159)
  | _ => none

/-- The slots looked at in one go: a slot and the nine after it, if there are so many. -/
def nearby (slots i : Nat) : List Nat :=
  if i + 9 < slots then (List.range 10).map (i + ·) else [i]

/-- The first free slot on the way of a code. -/
def place (slots : Nat) (taken : List Nat) : Nat → Nat → Nat → Nat
  | 0, i, _ => i
  | steps + 1, i, code =>
    match (nearby slots i).find? fun j => !taken.contains j with
    | some j => j
    | none => place slots taken steps ((5 * i + 1 + code / 32) % slots) (code / 32)

/-- The slots that the codes come to, one after the other. -/
def places (slots : Nat) (taken : List Nat) : List Nat → List Nat
  | [] => []
  | code :: codes =>
    let i := place slots taken (slots + 64) (code % slots) code
    i :: places slots (i :: taken) codes

end Slots

/-- The values without those that are the same as an earlier one. -/
def distinct (xs : List Value) : List Value :=
  xs.foldl (fun kept x => if x.among kept then kept else kept ++ [x]) []

/-- The members of a set in the order of their slots. -/
def inSlots (xs : List Value) : List Value :=
  let members := distinct xs
  match members.mapM Slots.code? with
  | some codes =>
    let slots := Slots.places (Slots.count members.length) [] codes
    ((slots.zip members).mergeSort fun a b => decide (a.1 ≤ b.1)).map (·.2)
  | none => members

end Quire.Value
