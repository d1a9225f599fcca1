import Quire.Text.Surrogate

/-! The seven bit form of text: between a plus sign and whatever is no digit of
base 64, the digits hold the units of sixteen bits of other characters. -/

namespace Quire.Text.Utf7

def digit? (b : UInt8) : Option Nat :=
  let n := b.toNat
  if 65 ≤ n ∧ n ≤ 90 then some (n - 65)
  else if 97 ≤ n ∧ n ≤ 122 then some (n - 71)
  else if 48 ≤ n ∧ n ≤ 57 then some (n + 4)
  else if n = 43 then some 62
  else if n = 47 then some 63
  else none

/-- A stretch of digits that is being read: the bits that make no unit yet, and
the first half of a pair that waits for its second. -/
structure Stretch where
  bits : Nat := 0
  value : Nat := 0
  half : Option Nat := none

/-- Takes a unit in, with the characters that it completes. -/
def Stretch.unit (s : Stretch) (n : Nat) : List Char × Stretch :=
  let fresh := fun held : List Char =>
    if 0xD800 ≤ n ∧ n < 0xDC00 then (held, { s with half := some n })
    else (held ++ [charOfCode n], { s with half := none })
  match s.half with
  | some high =>
    if 0xDC00 ≤ n ∧ n < 0xE000 then
      ([Char.ofNat (0x10000 + (high - 0xD800) * 0x400 + (n - 0xDC00))], { s with half := none })
    else fresh [charOfCode high]
  | none => fresh []

def Stretch.push (s : Stretch) (digit : Nat) : List Char × Stretch :=
  let value := s.value * 64 + digit
  let bits := s.bits + 6
  if 16 ≤ bits then
    let rest := Nat.pow 2 (bits - 16)
    { s with bits := bits - 16, value := value % rest }.unit (value / rest)
  else ([], { s with bits, value })

/-- The bits left at the end of a stretch are fewer than a digit has, and zero. -/
def Stretch.isPadded (s : Stretch) : Bool := s.bits < 6 && s.value = 0

/-- A half that is left alone at the end of a stretch. -/
def Stretch.leftover (s : Stretch) : List Char := (s.half.map charOfCode).toList

/-- None if a stretch is broken off or a byte is none of seven bits. -/
def decode? : Option Stretch → List UInt8 → Option (List Char)
  | none, [] => some []
  | some s, [] => if s.isPadded ∧ s.half = none then some [] else none
  | none, 43 :: 45 :: rest => do return '+' :: (← decode? none rest)
  | none, [43] => some []
  | none, 43 :: b :: rest => do
    let (text, s) := Stretch.push {} (← digit? b)
    return text ++ (← decode? (some s) rest)
  | none, b :: rest => do
    if 128 ≤ b then none else return Char.ofNat b.toNat :: (← decode? none rest)
  | some s, b :: rest =>
    match digit? b with
    | some d => do
      let (text, s) := s.push d
      return text ++ (← decode? (some s) rest)
    | none => do
      if !s.isPadded || 128 ≤ b then none
      else
        let text := s.leftover ++ (if b = 45 then [] else [Char.ofNat b.toNat])
        return text ++ (← decode? none rest)

end Quire.Text.Utf7
