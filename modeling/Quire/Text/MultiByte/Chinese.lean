import Quire.Text.CharacterSet.Big5
import Quire.Text.CharacterSet.Gb2312
import Quire.Text.CharacterSet.Hkscs
import Quire.Text.MultiByte

/-! Encodings of Chinese. Those for simplified Chinese extend one another: the
wider sets put what is missing in order into the places that are left. -/

namespace Quire.MultiByte

open CharacterSet

def gb2312Pair (a b : Nat) : Option Char := shifted gb2312 0xA0 a b

/-- The ideographs that the narrower set has not got, and some that stand apart. -/
def gbkIdeographs : Array Char :=
  untaken gb2312.chars 0x4E00 0x9FA6 ++
    ("\uf92c\uf979\uf995\uf9e7\uf9f1\ufa0c\ufa0d\ufa0e\ufa0f\ufa11" ++
      "\ufa13\ufa14\ufa18\ufa1f\ufa20\ufa21\ufa23\ufa24\ufa27\ufa28\ufa29").toList.toArray

def gbkSigns : List Run := [
  ⟨0xA1, 0xA4, "·"⟩,
  ⟨0xA1, 0xAA, "—"⟩,
  ⟨0xA2, 0xA1, "ⅰⅱⅲⅳⅴⅵⅶⅷⅸⅹ"⟩,
  ⟨0xA6, 0xE0, "︵︶︹︺︿﹀︽︾﹁﹂﹃﹄  ︻︼︷︸︱ ︳︴"⟩,
  ⟨0xA8, 0xBB, "ɑ ńň ɡ"⟩,
  ⟨0xA8, 0x40, "ˊˋ˙–―‥‵℅℉↖↗↘↙∕∟∣≒≦≧⊿═║╒╓╔╕╖╗╘╙╚╛╜╝╞╟╠╡╢╣╤╥╦╧╨╩╪╫╬╭╮╯╰╱╲╳▁▂▃▄▅▆▇"⟩,
  ⟨0xA8, 0x80, "█▉▊▋▌▍▎▏▓▔▕▼▽◢◣◤◥☉⊕〒〝〞"⟩,
  ⟨0xA9, 0x40, "〡〢〣〤〥〦〧〨〩㊣㎎㎏㎜㎝㎞㎡㏄㏎㏑㏒㏕︰￢￤ ℡㈱ ‐   ー゛゜ヽヾ〆ゝゞ﹉﹊﹋﹌﹍﹎﹏﹐﹑﹒﹔﹕﹖﹗﹙﹚﹛﹜﹝﹞﹟﹠﹡"⟩,
  ⟨0xA9, 0x80, "﹢﹣﹤﹥﹦﹨﹩﹪﹫"⟩,
  ⟨0xA9, 0x96, "〇"⟩]

def gbkPlace (b : Nat) : Nat := placeIn 0x40 0x7E 0x80 0xFE b

/-- The ideographs fill 32 whole rows, then the lower halves of the rows that
the narrower set uses. -/
def gbkIdeograph (a b : Nat) : Option Char :=
  match gbkPlace b with
  | 0 => none
  | place + 1 =>
    if 0x81 ≤ a ∧ a ≤ 0xA0 then gbkIdeographs[(a - 0x81) * 190 + place]?
    else if 0xAA ≤ a ∧ a ≤ 0xFE ∧ place < 96 then
      gbkIdeographs[32 * 190 + (a - 0xAA) * 96 + place]?
    else none

def gbkPair (a b : Nat) : Option Char :=
  among gbkSigns a b <|> gb2312Pair a b <|> gbkIdeograph a b

/-- Three areas are left to the users, one after another. -/
def userPlace? (a b : Nat) : Option Nat :=
  if 0xAA ≤ a ∧ a ≤ 0xAF ∧ 0xA1 ≤ b ∧ b ≤ 0xFE then some ((a - 0xAA) * 94 + (b - 0xA1))
  else if 0xF8 ≤ a ∧ a ≤ 0xFE ∧ 0xA1 ≤ b ∧ b ≤ 0xFE then some ((a - 0xF8 + 6) * 94 + (b - 0xA1))
  else match gbkPlace b with
    | 0 => none
    | place + 1 =>
      if 0xA1 ≤ a ∧ a ≤ 0xA7 ∧ place < 96 then some (13 * 94 + (a - 0xA1) * 96 + place) else none

/-- The pairs that are neither used nor left to the users. -/
def sparePairs : List (Nat × Nat) :=
  (List.range' 0xA2 93).flatMap fun a =>
    ((List.range' 0x40 191).filter fun b =>
      gbkPlace b ≠ 0 && (gbkPair a b).isNone && (userPlace? a b).isNone).map (a, ·)

/-- Signs that were given spare pairs since. -/
def lateSigns : List Run := [
  ⟨0xA2, 0xE3, "€"⟩,
  ⟨0xA8, 0xBF, "ǹ"⟩,
  ⟨0xA9, 0x89, "〾⿰⿱⿲⿳⿴⿵⿶⿷⿸⿹⿺⿻"⟩,
  ⟨0xFE, 0x50, "⺁   ⺄㑳㑇⺈⺋ 㖞㘚㘎⺌⺗㥮㤘 㧏㧟㩳㧐  㭎㱮㳠⺧  ⺪䁖䅟⺮䌷⺳⺶⺷ 䎱䎬⺻䏝䓖䙡䙌"⟩,
  ⟨0xFE, 0x80, "䜣䜩䝼䞍⻊䥇䥺䥽䦂䦃䦅䦆䦟䦛䦷䦶  䲣䲟䲠䲡䱷䲢䴓䴔䴕䴖䴗䴘䴙䶮"⟩]

/-- Users' pairs and then spare ones are numbered through the private characters. -/
def privatePair (a b : Nat) : Option Char :=
  match userPlace? a b with
  | some place => some (Char.ofNat (0xE000 + place))
  | none => (sparePairs.idxOf? (a, b)).map fun place => Char.ofNat (0xE766 + place)

def gb18030Pair (a b : Nat) : Option Char :=
  gbkPair a b <|> among lateSigns a b <|> privatePair a b

/-- The characters below 65536 that have no pair. -/
def gb18030Rest : Array Char :=
  let paired := (List.range' 0x81 126).flatMap fun a =>
    (List.range' 0x40 191).filterMap (gb18030Pair a)
  untaken paired 0x80 0x10000

/-- Four bytes are a number; from the leading byte 0x90 on it counts from 65536. -/
def gb18030Quad (a b c d : Nat) : Option Char :=
  if 0x81 ≤ a ∧ a ≤ 0xFE ∧ 0x81 ≤ c ∧ c ≤ 0xFE ∧ 0x30 ≤ d ∧ d ≤ 0x39 then
    let place := fun lead => ((a - lead) * 10 + (b - 0x30)) * 1260 + (c - 0x81) * 10 + (d - 0x30)
    if a < 0x85 then gb18030Rest[place 0x81]?
    else if 0x90 ≤ a ∧ (0x10000 + place 0x90).isValidChar then
      some (Char.ofNat (0x10000 + place 0x90))
    else none
  else none

def gb18030Letter : Letter
  | a :: b :: rest =>
    if a < 128 then some ([Char.ofNat a], 0)
    else if 0x30 ≤ b ∧ b ≤ 0x39 then
      match rest with
      | c :: d :: _ => do return ([← gb18030Quad a b c d], 3)
      | _ => none
    else do return ([← gb18030Pair a b], 1)
  | [a] => if a < 128 then some ([Char.ofNat a], 0) else none
  | [] => none

/-- Pairs of seven bits stand between marks; the state tells whether one is open. -/
def hzStep : Step Bool
  | false, 0x7E :: 0x7E :: _ => some (['~'], 1, false)
  | false, 0x7E :: 0x7B :: _ => some ([], 1, true)
  | false, 0x7E :: 0x0A :: _ => some ([], 1, false)
  | true, 0x7E :: 0x7D :: _ => some ([], 1, false)
  | _, 0x7E :: _ => none
  | false, a :: _ => if a < 128 then some ([Char.ofNat a], 0, false) else none
  | true, a :: b :: _ =>
    if a < 128 then do return ([← shifted gb2312 0x20 a b], 1, true) else none
  | _, _ => none

def big5Pair (a b : Nat) : Option Char := big5.at? a (placeIn 0x40 0x7E 0xA1 0xFE b)

def cp950Signs : List Run := [
  ⟨0xA1, 0x45, "‧"⟩,
  ⟨0xA1, 0x4E, "﹑"⟩,
  ⟨0xA1, 0xC2, "¯"⟩,
  ⟨0xA1, 0xE3, "～"⟩,
  ⟨0xA1, 0xF2, "⊕⊙"⟩,
  ⟨0xA2, 0x41, "∕﹨ ￥ ￠￡"⟩,
  ⟨0xA3, 0xE1, "€"⟩,
  ⟨0xF9, 0xD6, "碁銹裏墻恒粧嫺╔╦╗╠╬╣╚╩╝╒╤╕╞╪╡╘╧╛╓╥╖╟╫╢╙╨╜║═╭╮╰╯▓"⟩]

def cp950Pair (a b : Nat) : Option Char := among cp950Signs a b <|> big5Pair a b

/-- Part of the wider set takes the place of what stands there in the narrower one. -/
def hkscsPair (a b : Nat) : Option Char :=
  (if a = 0xC6 ∧ 0xA1 ≤ b ∨ a = 0xC7 ∨ a = 0xC8 then none else big5Pair a b)
    <|> hkscs.at? a (placeIn 0x40 0x7E 0xA1 0xFE b)

def hkscsLetter : Letter
  | 0x88 :: 0x62 :: _ => some (['Ê', '\u0304'], 1)
  | 0x88 :: 0x64 :: _ => some (['Ê', '\u030c'], 1)
  | 0x88 :: 0xA3 :: _ => some (['ê', '\u0304'], 1)
  | 0x88 :: 0xA5 :: _ => some (['ê', '\u030c'], 1)
  | bytes => twoBytes hkscsPair bytes

end Quire.MultiByte
