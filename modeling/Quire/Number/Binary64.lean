/-! Binary floating point numbers of 64 bits, kept as exact multiples of the
smallest positive one. Rounding is to the nearest, a half to the even
neighbour. Only the operations that documents and limits need are here; of a
NaN no bits are kept, only whether it is one that a notation has by name. -/

namespace Quire

/-- A finite number is `units` steps of `2 ^ (-1074)`, with its sign apart so
that negative zero stays itself. A NaN of a mark above zero is one and the same
wherever the mark occurs; of mark zero each is its own. -/
inductive Binary64
  | nan (mark : Nat)
  | infinite (negative : Bool)
  | finite (negative : Bool) (units : Nat)
  deriving DecidableEq, Repr, Inhabited

namespace Binary64

/-- How many units make one. -/
def one : Nat := Nat.pow 2 1074

/-- First magnitude that no finite number has. -/
def limit : Nat := Nat.pow 2 2098

def zero : Binary64 := .finite false 0

/-- The bits of `n` beyond the 53 that a number can hold. -/
def excess (n : Nat) : Nat := n.log2 + 1 - 53

/-- `num / den` to the nearest whole number, a half going to the even one. -/
def roundHalfEven (num den : Nat) : Nat :=
  let q := num / den
  let r := num % den
  if 2 * r < den then q
  else if den < 2 * r then q + 1
  else if q % 2 = 0 then q else q + 1

theorem roundHalfEven_one (n : Nat) : roundHalfEven n 1 = n := by
  simp [roundHalfEven, Nat.mod_one]

/-- The number nearest to `num / den` units. -/
def ofUnits (negative : Bool) (num den : Nat) : Binary64 :=
  let step := Nat.pow 2 (excess (num / den))
  let units := roundHalfEven num (den * step) * step
  if units < limit then .finite negative units else .infinite negative

/-- The number nearest to the fraction `num / den`. -/
def ofRatio (negative : Bool) (num den : Nat) : Binary64 :=
  ofUnits negative (num * one) den

def ofNat (n : Nat) : Binary64 := ofRatio false n 1

def ofInt (n : Int) : Binary64 := ofRatio (n < 0) n.natAbs 1

/-- The number nearest to `digits * 10 ^ exponent`. Exponents that can only
end in zero or in infinity are not multiplied out. -/
def ofDecimal (negative : Bool) (digits : Nat) (exponent : Int) : Binary64 :=
  if digits = 0 then .finite negative 0
  else if 400 < exponent then .infinite negative
  else if 0 ≤ exponent then ofRatio negative (digits * Nat.pow 10 exponent.toNat) 1
  else if exponent + (digits.log2 : Int) < -1100 then .finite negative 0
  else ofRatio negative digits (Nat.pow 10 (-exponent).toNat)

/-- A NaN like no other, as arithmetic brings it about. -/
def undefined : Binary64 := .nan 0

def isNaN : Binary64 → Bool
  | .nan _ => true
  | _ => false

/-- The exact value in units, where there is one. -/
def units? : Binary64 → Option Int
  | .finite false n => some n
  | .finite true n => some (-n)
  | _ => none

/-- The order of numbers: none when a NaN is involved. -/
def compare? : Binary64 → Binary64 → Option Ordering
  | .nan _, _ | _, .nan _ => none
  | .infinite a, .infinite b => some (if a = b then .eq else if a then .lt else .gt)
  | .infinite a, .finite _ _ => some (if a then .lt else .gt)
  | .finite _ _, .infinite b => some (if b then .gt else .lt)
  | .finite a m, .finite b n =>
    some (compare (if a then -(m : Int) else m) (if b then -(n : Int) else n))

/-- Comparison with a whole number, which is not rounded first. -/
def compareInt? : Binary64 → Int → Option Ordering
  | .nan _, _ => none
  | .infinite a, _ => some (if a then .lt else .gt)
  | .finite a m, n => some (compare (if a then -(m : Int) else m) (n * one))

def isWhole : Binary64 → Bool
  | .finite _ n => n % one = 0
  | _ => false

/-- The whole part, the fraction dropped. -/
def truncate? : Binary64 → Option Int
  | .finite false n => some (n / one : Nat)
  | .finite true n => some (-((n / one : Nat) : Int))
  | _ => none

def neg : Binary64 → Binary64
  | .nan _ => undefined
  | .infinite a => .infinite !a
  | .finite a n => .finite (!a) n

def add : Binary64 → Binary64 → Binary64
  | .nan _, _ | _, .nan _ => undefined
  | .infinite a, .infinite b => if a = b then .infinite a else undefined
  | .infinite a, _ => .infinite a
  | _, .infinite b => .infinite b
  | .finite a m, .finite b n =>
    if a = b then ofUnits a (m + n) 1
    else if m = n then .finite false 0
    else if n < m then ofUnits a (m - n) 1
    else ofUnits b (n - m) 1

def sub (x y : Binary64) : Binary64 := x.add y.neg

def mul : Binary64 → Binary64 → Binary64
  | .nan _, _ | _, .nan _ => undefined
  | .infinite a, .infinite b => .infinite (a != b)
  | .infinite a, .finite b n => if n = 0 then undefined else .infinite (a != b)
  | .finite a m, .infinite b => if m = 0 then undefined else .infinite (a != b)
  | .finite a m, .finite b n => ofUnits (a != b) (m * n) one

/-- None when the divisor is zero. -/
def div? : Binary64 → Binary64 → Option Binary64
  | _, .finite _ 0 => none
  | .nan _, _ | _, .nan _ => some undefined
  | .infinite _, .infinite _ => some undefined
  | .infinite a, .finite b _ => some (.infinite (a != b))
  | .finite a _, .infinite b => some (.finite (a != b) 0)
  | .finite a m, .finite b n => some (ofRatio (a != b) m n)

/-- Successive binary digits of the logarithm of `x / 2 ^ scale`, which lies
between one and two. -/
def logBits (scale : Nat) : Nat → Nat → Nat → Nat
  | 0, _, acc => acc
  | k + 1, x, acc =>
    let y := x * x / Nat.pow 2 scale
    if Nat.pow 2 (scale + 1) ≤ y then logBits scale k (y / 2) (2 * acc + 1)
    else logBits scale k y (2 * acc)

/-- The binary logarithm of `n / 2 ^ shift`, which is at least one. -/
def log2Of (n shift : Nat) : Binary64 :=
  let whole := n.log2
  let scale := 200
  let bits := 96
  let fraction := logBits scale bits (n * Nat.pow 2 scale / Nat.pow 2 whole) 0
  ofRatio false ((whole - shift) * Nat.pow 2 bits + fraction) (Nat.pow 2 bits)

/-- The binary logarithm of a number that is at least one. -/
def log2 : Binary64 → Binary64
  | .finite false units => log2Of units 1074
  | .infinite false => .infinite false
  | _ => undefined

/-- The whole number next above, where there is one. -/
def ceiling? : Binary64 → Option Int
  | .finite false n => some ((n + one - 1) / one : Nat)
  | .finite true n => some (-((n / one : Nat) : Int))
  | _ => none

/-- The bits of the interchange format, for a whole exponent field and fraction. -/
def ofBits (bits : Nat) : Binary64 :=
  let negative := bits / Nat.pow 2 63 % 2 = 1
  let exponent := bits / Nat.pow 2 52 % Nat.pow 2 11
  let fraction := bits % Nat.pow 2 52
  if exponent = 2047 then if fraction = 0 then .infinite negative else undefined
  else if exponent = 0 then .finite negative fraction
  else .finite negative ((Nat.pow 2 52 + fraction) * Nat.pow 2 (exponent - 1))

end Binary64
end Quire
