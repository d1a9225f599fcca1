import Quire.Text.CharacterSet.Jisx0208
import Quire.Text.CharacterSet.Jisx0212
import Quire.Text.CharacterSet.Jisx0213
import Quire.Text.MultiByte

/-! Encodings of Japanese that tell from a byte itself how many belong to a character. -/

namespace Quire.MultiByte

open CharacterSet

/-- The one byte letters, narrow ones, from the byte 0xA1 on. -/
def narrowKana? (b : Nat) : Option Char :=
  if 0xA1 ≤ b ∧ b ≤ 0xDF then some (Char.ofNat (b - 0xA1 + 0xFF61)) else none

/-- ASCII, narrow letters after a mark, and of two marked sets one behind three bytes. -/
def eucLetter (pair triple : Nat → Nat → Option (List Char)) : Letter
  | 0x8E :: b :: _ => do return ([← narrowKana? b], 1)
  | 0x8F :: b :: c :: _ => do return (← triple b c, 2)
  | a :: rest =>
    if a < 128 then some ([Char.ofNat a], 0)
    else if a = 0x8E ∨ a = 0x8F then none
    else do return (← pair a (← rest.head?), 1)
  | [] => none

def only (c : Option Char) : Option (List Char) := c.map ([·])

def eucJpLetter : Letter :=
  eucLetter (fun a b => only (shifted jisx0208 0xA0 a b)) (fun a b => only (shifted jisx0212 0xA0 a b))

/-- Characters of the wider set that are written with a mark of their own. -/
def marked : List ((Nat × Nat) × List Char) := [
  ((4, 87), ['か', '\u309a']), ((4, 88), ['き', '\u309a']), ((4, 89), ['く', '\u309a']),
  ((4, 90), ['け', '\u309a']), ((4, 91), ['こ', '\u309a']), ((5, 87), ['カ', '\u309a']),
  ((5, 88), ['キ', '\u309a']), ((5, 89), ['ク', '\u309a']), ((5, 90), ['ケ', '\u309a']),
  ((5, 91), ['コ', '\u309a']), ((5, 92), ['セ', '\u309a']), ((5, 93), ['ツ', '\u309a']),
  ((5, 94), ['ト', '\u309a']), ((6, 88), ['ㇷ', '\u309a']), ((11, 36), ['æ', '\u0300']),
  ((11, 40), ['ɔ', '\u0300']), ((11, 41), ['ɔ', '\u0301']), ((11, 42), ['ʌ', '\u0300']),
  ((11, 43), ['ʌ', '\u0301']), ((11, 44), ['ə', '\u0300']), ((11, 45), ['ə', '\u0301']),
  ((11, 46), ['ɚ', '\u0300']), ((11, 47), ['ɚ', '\u0301']), ((11, 69), ['˩', '˥']),
  ((11, 70), ['˥', '˩'])]

/-- The wider set had two editions. -/
inductive Edition
  | first
  | second
  deriving DecidableEq, Repr

/-- Places that were empty in the first edition. -/
def addedLater : List (Nat × Nat) :=
  [(14, 1), (15, 94), (47, 52), (47, 94), (84, 7), (94, 90), (94, 91), (94, 92), (94, 93), (94, 94)]

/-- The first plane; two signs are wide or narrow as the encoding has them. -/
def firstPlane (e : Edition) (backslash tilde : Char) (row place : Nat) : Option (List Char) :=
  if e = .first ∧ (row, place) ∈ addedLater then none
  else if (row, place) = (1, 32) then some [backslash]
  else if (row, place) = (2, 18) then some [tilde]
  else only (jisx0208.at? row place) <|> only (jisx0213Added.at? row place)
    <|> marked.lookup (row, place)

/-- One place got another character in the second edition. -/
def secondPlane (e : Edition) (row place : Nat) : Option (List Char) :=
  if e = .first ∧ (row, place) = (93, 27) then some ['鬝'] else only (jisx0213Second.at? row place)

def eucJis0213Letter (e : Edition) : Letter :=
  eucLetter (fun a b => firstPlane e '＼' '～' (a - 0xA0) (b - 0xA0))
    (fun a b => secondPlane e (a - 0xA0) (b - 0xA0) <|> only (shifted jisx0212 0xA0 a b))

/-- Two rows share a leading byte. -/
def foldedPlace? (a b : Nat) : Option (Nat × Nat) :=
  match placeIn 0x40 0x7E 0x80 0xFC b with
  | 0 => none
  | place + 1 =>
    if 0x81 ≤ a ∧ a ≤ 0x9F then some (2 * (a - 0x81) + 1 + place / 94, place % 94 + 1)
    else if 0xE0 ≤ a ∧ a ≤ 0xFC then some (2 * (a - 0xC1) + 1 + place / 94, place % 94 + 1)
    else none

/-- One byte letters as `single` has them; else two bytes by row and place. -/
def foldedLetter (single : Nat → Option Char) (pair : Nat → Nat → Option (List Char)) : Letter
  | a :: rest =>
    match single a <|> narrowKana? a with
    | some c => some ([c], 0)
    | none => do
      let (row, place) ← foldedPlace? a (← rest.head?)
      return (← pair row place, 1)
  | [] => none

def ascii? (b : Nat) : Option Char := if b < 128 then some (Char.ofNat b) else none

def shiftJisLetter : Letter := foldedLetter ascii? fun row place => only (jisx0208.at? row place)

/-- ASCII with two signs replaced. -/
def roman? (b : Nat) : Option Char :=
  if b = 0x5C then some '¥' else if b = 0x7E then some '‾' else ascii? b

/-- The rows of the second plane in the order in which they follow the first. -/
def secondRows : Array Nat := (#[1, 8, 3, 4, 5, 12, 13, 14, 15] : Array Nat) ++ Array.range' 78 17

def shiftJis0213Letter (e : Edition) : Letter :=
  foldedLetter roman? fun row place =>
    if row ≤ 94 then firstPlane e '\\' '~' row place
    else do secondPlane e (← secondRows[row - 95]?) place

/-- Rows that were added, and signs that are taken for others. -/
def cp932Added : CharacterSet := ofRows [
  (13, "①②③④⑤⑥⑦⑧⑨⑩⑪⑫⑬⑭⑮⑯⑰⑱⑲⑳ⅠⅡⅢⅣⅤⅥⅦⅧⅨⅩ ㍉㌔㌢㍍㌘㌧㌃㌶㍑㍗㌍㌦㌣㌫㍊㌻㎜㎝㎞㎎㎏㏄㎡        ㍻〝〟№㏍℡㊤㊥㊦㊧㊨㈱㈲㈹㍾㍽㍼≒≡∫∮∑√⊥∠∟⊿∵∩∪"),
  (89, "纊褜鍈銈蓜俉炻昱棈鋹曻彅丨仡仼伀伃伹佖侒侊侚侔俍偀倢俿倞偆偰偂傔僴僘兊兤冝冾凬刕劜劦勀勛匀匇匤卲厓厲叝﨎咜咊咩哿喆坙坥垬埈埇﨏塚增墲夋奓奛奝奣妤妺孖寀甯寘寬尞岦岺峵崧嵓﨑嵂嵭嶸嶹巐弡弴彧德"),
  (90, "忞恝悅悊惞惕愠惲愑愷愰憘戓抦揵摠撝擎敎昀昕昻昉昮昞昤晥晗晙晴晳暙暠暲暿曺朎朗杦枻桒柀栁桄棏﨓楨﨔榘槢樰橫橆橳橾櫢櫤毖氿汜沆汯泚洄涇浯涖涬淏淸淲淼渹湜渧渼溿澈澵濵瀅瀇瀨炅炫焏焄煜煆煇凞燁燾犱"),
  (91, "犾猤猪獷玽珉珖珣珒琇珵琦琪琩琮瑢璉璟甁畯皂皜皞皛皦益睆劯砡硎硤硺礰礼神祥禔福禛竑竧靖竫箞精絈絜綷綠緖繒罇羡羽茁荢荿菇菶葈蒴蕓蕙蕫﨟薰蘒﨡蠇裵訒訷詹誧誾諟諸諶譓譿賰賴贒赶﨣軏﨤逸遧郞都鄕鄧釚"),
  (92, "釗釞釭釮釤釥鈆鈐鈊鈺鉀鈼鉎鉙鉑鈹鉧銧鉷鉸鋧鋗鋙鋐﨧鋕鋠鋓錥錡鋻﨨錞鋿錝錂鍰鍗鎤鏆鏞鏸鐱鑅鑈閒隆﨩隝隯霳霻靃靍靏靑靕顗顥飯飼餧館馞驎髙髜魵魲鮏鮱鮻鰀鵰鵫鶴鸙黑  ⅰⅱⅲⅳⅴⅵⅶⅷⅸⅹ￢￤＇＂"),
  (115, "ⅰⅱⅲⅳⅴⅵⅶⅷⅸⅹⅠⅡⅢⅣⅤⅥⅦⅧⅨⅩ￢￤＇＂㈱№℡∵纊褜鍈銈蓜俉炻昱棈鋹曻彅丨仡仼伀伃伹佖侒侊侚侔俍偀倢俿倞偆偰偂傔僴僘兊兤冝冾凬刕劜劦勀勛匀匇匤卲厓厲叝﨎咜咊咩哿喆坙坥垬埈埇﨏塚增墲"),
  (116, "夋奓奛奝奣妤妺孖寀甯寘寬尞岦岺峵崧嵓﨑嵂嵭嶸嶹巐弡弴彧德忞恝悅悊惞惕愠惲愑愷愰憘戓抦揵摠撝擎敎昀昕昻昉昮昞昤晥晗晙晴晳暙暠暲暿曺朎朗杦枻桒柀栁桄棏﨓楨﨔榘槢樰橫橆橳橾櫢櫤毖氿汜沆汯泚洄涇浯"),
  (117, "涖涬淏淸淲淼渹湜渧渼溿澈澵濵瀅瀇瀨炅炫焏焄煜煆煇凞燁燾犱犾猤猪獷玽珉珖珣珒琇珵琦琪琩琮瑢璉璟甁畯皂皜皞皛皦益睆劯砡硎硤硺礰礼神祥禔福禛竑竧靖竫箞精絈絜綷綠緖繒罇羡羽茁荢荿菇菶葈蒴蕓蕙蕫﨟薰"),
  (118, "蘒﨡蠇裵訒訷詹誧誾諟諸諶譓譿賰賴贒赶﨣軏﨤逸遧郞都鄕鄧釚釗釞釭釮釤釥鈆鈐鈊鈺鉀鈼鉎鉙鉑鈹鉧銧鉷鉸鋧鋗鋙鋐﨧鋕鋠鋓錥錡鋻﨨錞鋿錝錂鍰鍗鎤鏆鏞鏸鐱鑅鑈閒隆﨩隝隯霳霻靃靍靏靑靕顗顥飯飼餧館馞驎髙"),
  (119, "髜魵魲鮏鮱鮻鰀鵰鵫鶴鸙黑")]

def cp932Signs : List ((Nat × Nat) × Char) :=
  [((1, 33), '～'), ((1, 34), '∥'), ((1, 61), '－'), ((1, 81), '￠'), ((1, 82), '￡'), ((2, 44), '￢')]

/-- Bytes that stand for private characters. -/
def cp932Single? (b : Nat) : Option Char :=
  if b ≤ 0x80 then some (Char.ofNat b)
  else if b = 0xA0 then some '\uf8f0'
  else if 0xFD ≤ b then some (Char.ofNat (b - 0xFD + 0xF8F1))
  else none

/-- The rows from 95 to 114 are left to the users. -/
def cp932Letter : Letter :=
  foldedLetter cp932Single? fun row place =>
    if 95 ≤ row ∧ row ≤ 114 then some [Char.ofNat (0xE000 + (row - 95) * 94 + (place - 1))]
    else only (cp932Signs.lookup (row, place) <|> cp932Added.at? row place <|> jisx0208.at? row place)

end Quire.MultiByte
