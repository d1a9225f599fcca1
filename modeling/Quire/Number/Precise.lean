import Quire.Number.Shortest

/-! Texts of numbers with as many digits as are asked for. The last digit is
rounded, a half to the even neighbour. -/

namespace Quire.Binary64

/-- How many digits are counted: those after the point, those after the first
one, or those that matter. -/
inductive Form
  | places
  | scientific
  | general
  deriving DecidableEq, Repr

/-- The point after the first `lead` digits. Without digits after it there is
no point, unless it is kept. -/
def pointed (keepPoint : Bool) (lead : Nat) (digits : List Char) : List Char :=
  let fraction := digits.drop lead
  digits.take lead ++ if fraction = [] && !keepPoint then [] else '.' :: fraction

def placesText (keepPoint : Bool) (places units : Nat) : List Char :=
  let digits := decimalText (roundHalfEven (units * Nat.pow 10 places) one)
  let digits := List.replicate (places + 1 - digits.length) '0' ++ digits
  pointed keepPoint (digits.length - places) digits

/-- So many digits after the first one, and the power of ten of the first. -/
def leadingDigits (count units : Nat) : List Char × Int :=
  if units = 0 then (List.replicate (count + 1) '0', 0)
  else
    let power := leadingPower units
    let (num, den) := tenth (power - count)
    let digits := decimalText (roundHalfEven (units * den) num)
    if count + 1 < digits.length then (digits.take (count + 1), power + 1) else (digits, power)

def exponentText (power : Int) : List Char :=
  let digits := decimalText power.natAbs
  'e' :: (if power < 0 then '-' else '+') :: (List.replicate (2 - digits.length) '0' ++ digits)

def scientificText (keepPoint : Bool) (count units : Nat) : List Char :=
  let (digits, power) := leadingDigits count units
  pointed keepPoint 1 digits ++ exponentText power

/-- Zeros at the end of a fraction do not matter. -/
def trimmed (lead : Nat) (digits : List Char) : List Char :=
  digits.take lead ++ ((digits.drop lead).reverse.dropWhile (· = '0')).reverse

/-- Positional where the power of the first digit is neither too low nor beyond
the digits that are asked for. -/
def generalText (keepPoint : Bool) (count units : Nat) : List Char :=
  let count := max 1 count
  let (digits, power) := leadingDigits (count - 1) units
  let kept := fun (lead : Nat) ds => pointed keepPoint lead (if keepPoint then ds else trimmed lead ds)
  if -4 ≤ power ∧ power < count then
    if power < 0 then kept 1 (List.replicate (-power).toNat '0' ++ digits)
    else kept (power.toNat + 1) digits
  else kept 1 digits ++ exponentText power

/-- The text of a form. Its sign is a minus or none. -/
def precise (form : Form) (keepPoint : Bool) (count : Nat) : Binary64 → List Char
  | .nan _ => "nan".toList
  | .infinite negative => (if negative then "-inf" else "inf").toList
  | .finite negative units =>
    (if negative then ['-'] else []) ++ match form with
      | .places => placesText keepPoint count units
      | .scientific => scientificText keepPoint count units
      | .general => generalText keepPoint count units

end Quire.Binary64
