import Quire.Number.Binary64

/-! The shortest decimal digits that read back as a given number, and the two
layouts built on them: the plain one, positional from `1e-4` up to `1e16`, and
fixed places. -/

namespace Quire.Binary64

/-- The numbers that round to `units` are those between `low` and `high`
quarter units, ends included when `closed`. -/
structure Basin where
  low : Nat
  high : Nat
  closed : Bool

def basin (units : Nat) : Basin :=
  let step := Nat.pow 2 (excess units)
  let significand := units / step
  let below := if significand = Nat.pow 2 52 ∧ 1 < step then step else 2 * step
  { low := 4 * units - below
    high := 4 * units + 2 * step
    closed := significand % 2 = 0 }

/-- Whether `num / den` units lie in the basin. -/
def Basin.holds (b : Basin) (num den : Nat) : Bool :=
  if b.closed then b.low * den ≤ 4 * num && 4 * num ≤ b.high * den
  else b.low * den < 4 * num && 4 * num < b.high * den

/-- Number of decimal digits of a positive whole number. -/
def digitCount (n : Nat) : Nat := (Nat.toDigits 10 n).length

/-- The power of ten of the first digit of `units`, which is not zero. -/
def leadingPower (units : Nat) : Int :=
  if one ≤ units then (digitCount (units / one) : Int) - 1
  else
    let shifted := units * Nat.pow 10 330 / one
    (digitCount shifted : Int) - 331

/-- `10 ^ power` units as a fraction. -/
def tenth (power : Int) : Nat × Nat :=
  if 0 ≤ power then (Nat.pow 10 power.toNat * one, 1) else (one, Nat.pow 10 (-power).toNat)

/-- The multiple of `10 ^ power` that reads back as `units` and is nearest to
it, if there is one; of two at the same distance the even one. -/
def nearestOnGrid (units : Nat) (power : Int) : Option Nat :=
  let (num, den) := tenth power
  let b := basin units
  let q := units * den / num
  let r := units * den % num
  let down := b.holds (q * num) den
  let up := b.holds ((q + 1) * num) den
  let preferDown := 2 * r < num || (2 * r = num && q % 2 = 0)
  match down, up with
  | true, true => some (if preferDown then q else q + 1)
  | true, false => some q
  | false, true => some (q + 1)
  | false, false => none

def searchGrids (units : Nat) (top : Int) : Nat → Nat → Nat × Int
  | 0, _ => (units, 0)
  | fuel + 1, count =>
    let power := top - (count : Int) + 1
    match nearestOnGrid units power with
    | some digits => (digits, power)
    | none => searchGrids units top fuel (count + 1)

/-- The shortest digits and the power of ten of the last of them. -/
def shortest (units : Nat) : Nat × Int := searchGrids units (leadingPower units) 20 1

def stripZeros : Nat → Nat → Int → Nat × Int
  | 0, n, p => (n, p)
  | fuel + 1, n, p => if n ≠ 0 ∧ n % 10 = 0 then stripZeros fuel (n / 10) (p + 1) else (n, p)

def decimalText (n : Nat) : List Char := Nat.toDigits 10 n

/-- Digits with the point after the first `lead` of them. -/
def positional (digits : List Char) (lead : Int) : List Char :=
  if lead ≤ 0 then '0' :: '.' :: (List.replicate (-lead).toNat '0' ++ digits)
  else if digits.length ≤ lead.toNat then
    digits ++ List.replicate (lead.toNat - digits.length) '0' ++ ['.', '0']
  else digits.take lead.toNat ++ '.' :: digits.drop lead.toNat

/-- One digit before the point, and the exponent with a sign and two digits at
least. -/
def scientific (digits : List Char) (power : Int) : List Char :=
  let mantissa := match digits with
    | d :: e :: rest => d :: '.' :: e :: rest
    | other => other
  let magnitude := decimalText power.natAbs
  let padded := if magnitude.length < 2 then '0' :: magnitude else magnitude
  mantissa ++ 'e' :: (if power < 0 then '-' else '+') :: padded

def magnitudeText (units : Nat) : List Char :=
  if units = 0 then ['0', '.', '0']
  else
    let found := shortest units
    let (n, p) := stripZeros 20 found.1 found.2
    let digits := decimalText n
    let lead := p + digits.length
    if -3 ≤ lead ∧ lead ≤ 16 then positional digits lead
    else scientific digits (lead - 1)

/-- The default text of a number. -/
def text : Binary64 → String
  | .nan _ => "nan"
  | .infinite false => "inf"
  | .infinite true => "-inf"
  | .finite negative units =>
    String.ofList ((if negative then ['-'] else []) ++ magnitudeText units)

/-- The text with exactly `places` digits after the point. -/
def fixed (places : Nat) : Binary64 → String
  | .nan _ => "nan"
  | .infinite false => "inf"
  | .infinite true => "-inf"
  | .finite negative units =>
    let scaled := roundHalfEven (units * Nat.pow 10 places) one
    let digits := decimalText scaled
    let padded := List.replicate (places + 1 - digits.length) '0' ++ digits
    let whole := padded.take (padded.length - places)
    let sign := if negative then ['-'] else []
    if places = 0 then String.ofList (sign ++ whole)
    else String.ofList (sign ++ whole ++ '.' :: padded.drop (padded.length - places))

end Quire.Binary64
