import Quire.Text.MultiByte.Chinese
import Quire.Text.MultiByte.Japanese
import Quire.Text.MultiByte.Korean

/-! Encodings of seven bits in which escape sequences call up the set that the
bytes after them stand for. -/

namespace Quire.MultiByte

/-- How a set is called up: by the last byte of a sequence, and as one of one
byte or of two for a character. -/
structure Call where
  mark : Char
  isDouble : Bool
  deriving DecidableEq, Repr

def Call.ascii : Call := ⟨'B', false⟩

/-- What a set makes of its bytes; one of single bytes looks at the first only. -/
abbrev Reading := Nat → Nat → Option (List Char)

/-- The sets that an encoding knows beside ASCII, and what else it allows. -/
structure Repertoire where
  sets : List (Call × Reading)
  /-- Marks switch between the first and the second set. -/
  shifts : Bool := false
  /-- A third set gives single characters after a mark. -/
  hasThird : Bool := false
  /-- A set may be called up by its revision. -/
  revises : Bool := false

/-- The sets called up, and which is in use. -/
structure Switches where
  first : Call := .ascii
  second : Call := .ascii
  third : Call := .ascii
  isShifted : Bool := false
  /-- Within a sequence that is none of these and stands for itself. -/
  isForeign : Bool := false

def isFinal (b : Nat) : Bool := b = 0x40 || (0x41 ≤ b && b ≤ 0x5A)

/-- How many bytes there are up to the end of a sequence, which must come within
sixteen; the mark of a revision is no end. -/
def sequenceLength? (revises : Bool) (index : Nat) (bytes : List Nat) : Option Nat :=
  if 16 ≤ index then none
  else match bytes with
    | [] => none
    | b :: rest =>
      if isFinal b then some (index + 1)
      else if revises && b = 0x26 && rest.head? = some 0x40 then
        sequenceLength? revises (index + 3) (bytes.drop 3)
      else sequenceLength? revises (index + 1) rest
termination_by 16 - index

/-- Which of the three sets a sequence sets, and to what. -/
def called? (r : Repertoire) : List Nat → Option (Nat × Call)
  | [0x1B, 0x24, m] => some (1, ⟨Char.ofNat m, true⟩)
  | [0x1B, 0x28, m] => some (1, ⟨Char.ofNat m, false⟩)
  | [0x1B, 0x29, m] => some (2, ⟨Char.ofNat m, false⟩)
  | [0x1B, 0x2E, m] => if r.hasThird then some (3, ⟨Char.ofNat m, false⟩) else none
  | [0x1B, 0x24, 0x28, m] => some (1, ⟨Char.ofNat m, true⟩)
  | [0x1B, 0x24, 0x29, m] => some (2, ⟨Char.ofNat m, true⟩)
  | [0x1B, _, _, 0x1B, 0x24, 0x42] => if r.revises then some (1, ⟨'B', true⟩) else none
  | _ => none

def Switches.set (s : Switches) (which : Nat) (c : Call) : Switches :=
  match which with
  | 1 => { s with first := c }
  | 2 => { s with second := c }
  | _ => { s with third := c }

def callUp (r : Repertoire) (s : Switches) (bytes : List Nat) : Option (List Char × Nat × Switches) := do
  let length ← sequenceLength? r.revises 1 (bytes.drop 1)
  let (which, c) ← called? r (bytes.take length)
  if c = .ascii ∨ r.sets.any (·.1 = c) then return ([], length - 1, s.set which c) else none

/-- Greek as the third set has it. -/
def greek : Array Char :=
  "\u00a0‘’£  ¦§¨© «¬\u00ad ―°±²³΄΅Ά·ΈΉΊ»Ό½ΎΏΐΑΒΓΔΕΖΗΘΙΚΛΜΝΞΟΠΡ ΣΤΥΦΧΨΩΪΫάέήίΰαβγδεζηθικλμνξοπρςστυφχψωϊϋόύώ".toList.toArray

/-- The character that the third set has for a byte, which stands for its upper half. -/
def thirdChar? (c : Call) (b : Nat) : Option Char :=
  if c = .ascii then ascii? b
  else if c = ⟨'A', false⟩ then (ascii? b).map fun _ => Char.ofNat (b + 0x80)
  else
    let n := if b < 0x80 then b + 0x80 else b - 0x80
    if n < 0xA0 then some (Char.ofNat n) else greek[n - 0xA0]?.filter (· ≠ ' ')

/-- A byte that stands for a character of the set in use. -/
def shownByte (r : Repertoire) (s : Switches) (b : Nat) (rest : List Nat) :
    Option (List Char × Nat × Switches) :=
  let c := if s.isShifted then s.second else s.first
  if c = .ascii then some ([Char.ofNat b], 0, s)
  else do
    let read ← r.sets.lookup c
    if c.isDouble then return (← read b (← rest.head?), 1, s) else return (← read b 0, 0, s)

def switchedStep (r : Repertoire) : Step Switches
  | s, b :: rest =>
    if s.isForeign then some ([Char.ofNat b], 0, { s with isForeign := !isFinal b })
    else if b = 0x1B then
      match rest with
      | [] => none
      | next :: more =>
        if [0x28, 0x29, 0x24, 0x2E, 0x26].contains next then callUp r s (b :: rest)
        else if r.hasThird ∧ next = 0x4E then do
          return ([← thirdChar? s.third (← more.head?)], 2, s)
        else some (['\x1b'], 0, { s with isForeign := true })
    else if r.shifts ∧ b = 0x0F then some ([], 0, { s with isShifted := false })
    else if r.shifts ∧ b = 0x0E then some ([], 0, { s with isShifted := true })
    else if b = 0x0A then some (['\n'], 0, { s with isShifted := false })
    else if b < 0x20 then some ([Char.ofNat b], 0, s)
    else if 0x80 ≤ b then none
    else shownByte r s b rest
  | _, [] => none

def readingOf (set : CharacterSet) : Reading := fun a b => only (shifted set 0x20 a b)

def romanReading : Reading := fun b _ => only (roman? b)

def kanaReading : Reading := fun b _ => only (narrowKana? (b + 0x80))

def japaneseSets : List (Call × Reading) := [
  (⟨'B', true⟩, readingOf .jisx0208),
  (⟨'@', true⟩, readingOf .jisx0208),
  (⟨'J', false⟩, romanReading)]

def supplement : Call × Reading := (⟨'D', true⟩, readingOf .jisx0212)

/-- Known for the third set alone. -/
def thirdOnly (mark : Char) : Call × Reading := (⟨mark, false⟩, fun _ _ => none)

/-- The edition tells for the first plane only. -/
def planes (mark : Char) (e : Edition) : List (Call × Reading) := [
  (⟨'B', true⟩, readingOf .jisx0208),
  (⟨mark, true⟩, fun a b => firstPlane e '＼' '~' (a - 0x20) (b - 0x20)),
  (⟨'P', true⟩, fun a b => secondPlane .second (a - 0x20) (b - 0x20))]

def Repertoire.jp : Repertoire := { sets := japaneseSets, revises := true }

def Repertoire.jp1 : Repertoire := { sets := supplement :: japaneseSets, revises := true }

def Repertoire.jp2 : Repertoire :=
  { sets := [supplement, (⟨'C', true⟩, readingOf .ksx1001), (⟨'A', true⟩, readingOf .gb2312),
      thirdOnly 'A', thirdOnly 'F'] ++ japaneseSets
    hasThird := true
    revises := true }

def Repertoire.jp3 : Repertoire := { sets := planes 'O' .first, revises := true }

def Repertoire.jp2004 : Repertoire := { sets := planes 'Q' .second, revises := true }

def Repertoire.jpExt : Repertoire :=
  { sets := supplement :: (⟨'I', false⟩, kanaReading) :: japaneseSets, revises := true }

def Repertoire.kr : Repertoire := { sets := [(⟨'C', true⟩, readingOf .ksx1001)], shifts := true }

end Quire.MultiByte
