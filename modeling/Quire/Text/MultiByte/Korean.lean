import Quire.Text.CharacterSet.Ksx1001
import Quire.Text.MultiByte

/-! Encodings of Korean. A syllable is put together from an initial, a vowel and
perhaps a final, and numbered by the three. -/

namespace Quire.MultiByte

open CharacterSet

def syllable (initial vowel final : Nat) : Char :=
  Char.ofNat (0xAC00 + (initial * 21 + vowel) * 28 + final)

def initials : List Char := "ㄱㄲㄴㄷㄸㄹㅁㅂㅃㅅㅆㅇㅈㅉㅊㅋㅌㅍㅎ".toList

def finals : List Char := "ㄱㄲㄳㄴㄵㄶㄷㄹㄺㄻㄼㄽㄾㄿㅀㅁㅂㅄㅅㅆㅇㅈㅊㅋㅌㅍㅎ".toList

/-- The letter for the first vowel. -/
def vowelBase : Nat := 0x314F

def ksx1001Pair (a b : Nat) : Option Char := shifted ksx1001 0xA0 a b

/-- Stands where a part of a syllable is left out. -/
def isFiller (c : Char) : Bool := c = '\u3164'

/-- The syllable that three letters make; the last may be left out. -/
def composed? (initial vowel final : Char) : Option Char := do
  let i ← initials.idxOf? initial
  let v := vowel.toNat - vowelBase
  let f ← if isFiller final then some 0 else (finals.idxOf? final).map (· + 1)
  if vowelBase ≤ vowel.toNat ∧ v < 21 then return syllable i v f else none

/-- A filler begins a syllable that is spelled by its letters, of the same row all. -/
def eucKrLetter : Letter
  | 0xA4 :: 0xD4 :: rest =>
    match rest with
    | 0xA4 :: i :: 0xA4 :: v :: 0xA4 :: f :: _ => do
      return ([← composed? (← ksx1001Pair 0xA4 i) (← ksx1001Pair 0xA4 v) (← ksx1001Pair 0xA4 f)], 7)
    | _ => none
  | bytes => twoBytes ksx1001Pair bytes

/-- The syllables that have no place in the set. -/
def furtherSyllables : Array Char := untaken ksx1001.chars 0xAC00 0xD7A4

/-- Below the rows of the set a row holds 178 further syllables, within them 84. -/
def furtherSyllable (a b : Nat) : Option Char :=
  let place :=
    if 0x41 ≤ b ∧ b ≤ 0x5A then some (b - 0x41)
    else if 0x61 ≤ b ∧ b ≤ 0x7A then some (b - 0x61 + 26)
    else if 0x81 ≤ b ∧ b ≤ 0xFE then some (b - 0x81 + 52)
    else none
  match place with
  | none => none
  | some place =>
    if 0x81 ≤ a ∧ a ≤ 0xA0 then furtherSyllables[(a - 0x81) * 178 + place]?
    else if 0xA1 ≤ a ∧ place < 84 then furtherSyllables[32 * 178 + (a - 0xA1) * 84 + place]?
    else none

def cp949Pair (a b : Nat) : Option Char := ksx1001Pair a b <|> furtherSyllable a b

/-- What five bits say of a part of a syllable. -/
inductive Part
  | filler
  | letter (n : Nat)
  | invalid

def initialPart (bits : Nat) : Part :=
  if bits = 1 then .filler else if 2 ≤ bits ∧ bits ≤ 20 then .letter (bits - 2) else .invalid

/-- Vowels stand in groups of six, with two codes between the groups. -/
def vowelPart (bits : Nat) : Part :=
  if bits = 2 then .filler
  else if 3 ≤ bits ∧ bits ≤ 7 then .letter (bits - 3)
  else if 10 ≤ bits ∧ bits ≤ 15 then .letter (bits - 5)
  else if 18 ≤ bits ∧ bits ≤ 23 then .letter (bits - 7)
  else if 26 ≤ bits ∧ bits ≤ 29 then .letter (bits - 9)
  else .invalid

def finalPart (bits : Nat) : Part :=
  if bits = 1 then .filler
  else if 2 ≤ bits ∧ bits ≤ 17 then .letter (bits - 2)
  else if 19 ≤ bits ∧ bits ≤ 29 then .letter (bits - 3)
  else .invalid

/-- A syllable, or a letter that stands alone. -/
def ofParts : Part → Part → Part → Option Char
  | .filler, .filler, .filler => some '\u3000'
  | .filler, .filler, .letter f => finals[f]?
  | .filler, .letter v, .filler => some (Char.ofNat (vowelBase + v))
  | .letter i, .filler, .filler => initials[i]?
  | .letter i, .letter v, .filler => some (syllable i v 0)
  | .letter i, .letter v, .letter f => some (syllable i v (f + 1))
  | _, _, _ => none

/-- Signs and ideographs, of which two rows share a leading byte. -/
def johabSign (a b : Nat) : Option Char :=
  if a = 0xDF ∨ 0xF9 < a ∨ (a = 0xDA ∧ 0xA1 ≤ b ∧ b ≤ 0xD3) then none
  else match placeIn 0x31 0x7E 0x91 0xFE b with
    | 0 => none
    | place + 1 =>
      let row := if a < 0xE0 then 2 * (a - 0xD9) + 1 else 2 * (a - 0xE0) + 42
      ksx1001.at? (row + place / 94) (place % 94 + 1)

def johabPair (a b : Nat) : Option Char :=
  if a < 0xD8 then
    ofParts (initialPart (a / 4 % 32)) (vowelPart (a * 8 % 32 + b / 32)) (finalPart (b % 32))
  else if a = 0xD8 then none
  else johabSign a b

end Quire.MultiByte
