import Quire.Text.Surrogate

/-! The form of international names that holds all other characters as
differences, after a hyphen. Reading it puts one character after another into
the plain text, in the order of their numbers. -/

namespace Quire.Text.Punycode

/-- Why a text is not of this form. -/
inductive Trouble
  | incomplete
  | badDigit (c : Char)
  | badCharacter (n : Nat)
  deriving DecidableEq, Repr

def hexText (n : Nat) : String := String.ofList (Nat.toDigits 16 n)

def Trouble.message : Trouble → String
  | .incomplete => "incomplete punicode string"
  | .badDigit c => "Invalid extended code point '" ++ c.toString ++ "'"
  | .badCharacter n => "Invalid character U+" ++ hexText n

/-- Letters are the first digits, of which there are thirty-six. -/
def digit? (c : Char) : Option Nat :=
  if 'A' ≤ c ∧ c ≤ 'Z' then some (c.toNat - 65)
  else if '0' ≤ c ∧ c ≤ '9' then some (c.toNat - 22)
  else none

/-- A digit below this value ends its number. -/
def threshold (place bias : Nat) : Nat := min 26 (max 1 (36 * (place + 1) - bias))

/-- A number, its last digits first, and the rest of the text. -/
def number (bias : Nat) (place weight value : Nat) :
    List Char → Except Trouble (Nat × List Char)
  | [] => .error .incomplete
  | c :: rest =>
    match digit? c with
    | none => .error (.badDigit c)
    | some d =>
      let t := threshold place bias
      if d < t then .ok (value + d * weight, rest)
      else number bias (place + 1) (weight * (36 - t)) (value + d * weight) rest

/-- Halvings of a difference until it is small, and what is left of it. -/
def shrink (delta : Nat) (steps : Nat) : Nat × Nat :=
  if 455 < delta then shrink (delta / 35) (steps + 36) else (delta, steps)
termination_by delta
decreasing_by exact Nat.div_lt_self (by omega) (by decide)

/-- The bias for the number that follows a difference. -/
def adapt (delta : Nat) (isFirst : Bool) (count : Nat) : Nat :=
  let delta := if isFirst then delta / 700 else delta / 2
  let (delta, steps) := shrink (delta + delta / count) 0
  steps + 36 * delta / (delta + 38)

/-- Where the next character goes and which one it is. -/
structure Cursor where
  place : Nat := 0
  code : Nat := 128
  bias : Nat := 72
  isFirst : Bool := true

theorem length_number {bias place weight value : Nat} {cs : List Char} {n : Nat}
    {rest : List Char} (h : number bias place weight value cs = .ok (n, rest)) :
    rest.length < cs.length := by
  induction cs generalizing place weight value with
  | nil => simp [number] at h
  | cons c cs ih =>
    simp only [number] at h
    split at h
    · cases h
    · split at h
      · cases h
        simp
      · exact Nat.lt_succ_of_lt (ih h)

/-- Puts the characters that differences tell of into a text. -/
def insertAll (k : Cursor) (text : List Char) (cs : List Char) : Except Trouble (List Char) :=
  if cs = [] then .ok text
  else match h : number k.bias 0 1 0 cs with
    | .error e => .error e
    | .ok (delta, rest) =>
      let count := text.length + 1
      let place := k.place + delta
      let code := k.code + place / count
      if 0x10FFFF < code then .error (.badCharacter code)
      else
        have : rest.length < cs.length := length_number h
        insertAll ⟨place % count + 1, code, adapt delta k.isFirst count, false⟩
          (text.take (place % count) ++ Text.charOfCode code :: text.drop (place % count)) rest
termination_by cs.length

/-- The plain text stands before the last hyphen. -/
def decode (cs : List Char) : Except Trouble (List Char) :=
  let differences := (cs.reverse.takeWhile (· ≠ '-')).reverse
  let plain := cs.take (cs.length - differences.length - 1)
  insertAll {} plain (differences.map Char.toUpper)

end Quire.Text.Punycode
