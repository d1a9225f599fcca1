import Quire.Text.CharacterSet

/-! Encodings in which a character takes one byte or several. -/

namespace Quire.MultiByte

/-- Reads what the bytes begin with: the characters it stands for, how many
bytes after the first belong to it, and the state after it. -/
abbrev Step (σ : Type) := σ → List Nat → Option (List Char × Nat × σ)

/-- None as soon as a step finds nothing that it can read. -/
def run {σ : Type} (step : Step σ) (state : σ) : List Nat → Option (List Char)
  | [] => some []
  | b :: rest => do
    let (cs, more, state) ← step state (b :: rest)
    return cs ++ (← run step state (rest.drop more))
termination_by bytes => bytes.length

/-- A step that needs no state. -/
abbrev Letter := List Nat → Option (List Char × Nat)

def Letter.step (letter : Letter) : Step Unit :=
  fun () bytes => (letter bytes).map fun (cs, more) => (cs, more, ())

def runLetters (letter : Letter) (bytes : List Nat) : Option (List Char) :=
  run (Letter.step letter) () bytes

/-- ASCII takes one byte and all else two. -/
def twoBytes (pair : Nat → Nat → Option Char) : Letter
  | a :: rest =>
    if a < 128 then some ([Char.ofNat a], 0)
    else do return ([← pair a (← rest.head?)], 1)
  | [] => none

theorem step_twoBytes (pair : Nat → Nat → Option Char) (b : Nat) (rest : List Nat) (h : b < 128) :
    Letter.step (twoBytes pair) () (b :: rest) = some ([Char.ofNat b], 0, ()) := by
  simp [Letter.step, twoBytes, h]

/-- ASCII reads as itself, whatever the pairs are. -/
theorem runLetters_twoBytes (pair : Nat → Nat → Option Char) (bytes : List Nat)
    (h : ∀ b ∈ bytes, b < 128) :
    runLetters (twoBytes pair) bytes = some (bytes.map Char.ofNat) := by
  unfold runLetters
  induction bytes with
  | nil => rw [run]; rfl
  | cons b rest ih =>
    have hb : b < 128 := h b List.mem_cons_self
    have hrest := ih fun c hc => h c (List.mem_cons_of_mem b hc)
    rw [run, step_twoBytes pair b rest hb]
    simp [hrest]

/-- The place of a byte in two ranges of which the first starts at `low`. -/
def placeIn (low lowEnd high highEnd : Nat) (b : Nat) : Nat :=
  if low ≤ b ∧ b ≤ lowEnd then b - low + 1
  else if high ≤ b ∧ b ≤ highEnd then b - high + 1 + (lowEnd - low + 1)
  else 0

/-- A character of a set whose rows and places are the bytes less the shift. -/
def shifted (set : CharacterSet) (shift a b : Nat) : Option Char := set.at? (a - shift) (b - shift)

end Quire.MultiByte
