/-! Halves of surrogate pairs that stand alone. They are numbers of no character,
so text that has one holds a character of the last private plane in its place. -/

namespace Quire.Text

def isSurrogate (n : Nat) : Bool := 0xD800 ≤ n && n < 0xE000

/-- How far the characters that stand for halves lie above them. -/
def surrogateShift : Nat := 0x100000

/-- The character of a number, or the one that stands for it. -/
def charOfCode (n : Nat) : Char :=
  if isSurrogate n then Char.ofNat (n + surrogateShift) else Char.ofNat n

/-- Whether a character stands for half of a pair. -/
def isLoneHalf (c : Char) : Bool := 0x10D800 ≤ c.toNat && c.toNat < 0x10E000

/-- The number that a character is written by. -/
def codeOf (c : Char) : Nat := if isLoneHalf c then c.toNat - surrogateShift else c.toNat

theorem codeOf_charOfCode (n : Nat) (h : isSurrogate n = true) : codeOf (charOfCode n) = n := by
  simp only [isSurrogate, Bool.and_eq_true, decide_eq_true_eq] at h
  have valid : (n + surrogateShift).isValidChar := Or.inr ⟨by unfold surrogateShift; omega,
    by unfold surrogateShift; omega⟩
  have number : (Char.ofNat (n + surrogateShift)).toNat = n + surrogateShift := by
    rw [Char.ofNat, dif_pos valid]
    rfl
  have half : isSurrogate n = true := by simp [isSurrogate, h]
  have lone : isLoneHalf (Char.ofNat (n + surrogateShift)) = true := by
    unfold isLoneHalf
    rw [number, Bool.and_eq_true, decide_eq_true_iff, decide_eq_true_iff]
    exact ⟨by unfold surrogateShift; omega, by unfold surrogateShift; omega⟩
  rw [codeOf, charOfCode, if_pos half, if_pos lone, number, Nat.add_sub_cancel]

end Quire.Text
