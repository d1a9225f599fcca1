import Quire.Text.Surrogate
import Quire.Text.Visible

/-! Text between quotes, as messages show it: single quotes unless only double
ones avoid an escape, and an escape for every character that is not visible. -/

namespace Quire.Text

def hexDigits (width n : Nat) : List Char :=
  let digits := Nat.toDigits 16 n
  List.replicate (width - digits.length) '0' ++ digits

/-- Single quotes, unless the text has such a quote and no double one. -/
def chooseQuote (cs : List Char) : Char :=
  if cs.contains '\'' && !cs.contains '"' then '"' else '\''

def escapeChar (quote c : Char) : List Char :=
  if c = quote ∨ c = '\\' then ['\\', c]
  else if c = '\n' then ['\\', 'n']
  else if c = '\r' then ['\\', 'r']
  else if c = '\t' then ['\\', 't']
  else if isVisible c then [c]
  else if c.toNat < 0x100 then '\\' :: 'x' :: hexDigits 2 c.toNat
  else if codeOf c < 0x10000 then '\\' :: 'u' :: hexDigits 4 (codeOf c)
  else '\\' :: 'U' :: hexDigits 8 c.toNat

def quotedChars (cs : List Char) : List Char :=
  let quote := chooseQuote cs
  quote :: (cs.flatMap (escapeChar quote) ++ [quote])

def quoted (s : String) : String := String.ofList (quotedChars s.toList)

def escapeByte (quote : Char) (b : UInt8) : List Char :=
  let n := b.toNat
  let c := Char.ofNat n
  if c = quote ∨ c = '\\' then ['\\', c]
  else if c = '\n' then ['\\', 'n']
  else if c = '\r' then ['\\', 'r']
  else if c = '\t' then ['\\', 't']
  else if 32 ≤ n ∧ n < 127 then [c]
  else '\\' :: 'x' :: hexDigits 2 n

/-- Bytes between quotes, after the mark `b`. -/
def quotedBytes (bs : List UInt8) : String :=
  let quote := chooseQuote (bs.map fun b => Char.ofNat b.toNat)
  String.ofList ('b' :: quote :: (bs.flatMap (escapeByte quote) ++ [quote]))

theorem escapeChar_ne_nil (quote c : Char) : escapeChar quote c ≠ [] := by
  unfold escapeChar
  repeat' split
  all_goals simp

end Quire.Text
