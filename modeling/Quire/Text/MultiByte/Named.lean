import Quire.Text.MultiByte.Switched

/-! The encodings of several bytes by their names. -/

namespace Quire

inductive MultiByte
  | gb2312 | gbk | gb18030 | hz
  | big5 | big5hkscs | cp950
  | eucKr | cp949 | johab | iso2022Kr
  | eucJp | eucJis2004 | eucJisx0213
  | shiftJis | cp932 | shiftJis2004 | shiftJisx0213
  | iso2022Jp | iso2022Jp1 | iso2022Jp2 | iso2022Jp3 | iso2022Jp2004 | iso2022JpExt
  deriving DecidableEq, Repr

namespace MultiByte

/-- The encodings, each with its own name first. -/
def all : List (MultiByte × List String) := [
  (.gb2312, ["gb2312", "chinese", "csiso58gb231280", "euc_cn", "euccn", "eucgb2312_cn",
    "gb2312_1980", "gb2312_80", "iso_ir_58", "x_mac_simp_chinese"]),
  (.gbk, ["gbk", "936", "cp936", "ms936"]),
  (.gb18030, ["gb18030", "gb18030_2000"]),
  (.hz, ["hz", "hzgb", "hz_gb", "hz_gb_2312"]),
  (.big5, ["big5", "big5_tw", "csbig5", "x_mac_trad_chinese"]),
  (.big5hkscs, ["big5hkscs", "big5_hkscs", "hkscs"]),
  (.cp950, ["cp950", "950", "ms950"]),
  (.eucKr, ["euc_kr", "euckr", "korean", "ksc5601", "ks_c_5601", "ks_c_5601_1987", "ksx1001",
    "ks_x_1001", "x_mac_korean"]),
  (.cp949, ["cp949", "949", "ms949", "uhc"]),
  (.johab, ["johab", "cp1361", "ms1361"]),
  (.iso2022Kr, ["iso2022_kr", "csiso2022kr", "iso2022kr", "iso_2022_kr"]),
  (.eucJp, ["euc_jp", "eucjp", "ujis", "u_jis"]),
  (.eucJis2004, ["euc_jis_2004", "jisx0213", "eucjis2004", "euc_jis2004"]),
  (.eucJisx0213, ["euc_jisx0213", "eucjisx0213"]),
  (.shiftJis, ["shift_jis", "csshiftjis", "shiftjis", "sjis", "s_jis", "x_mac_japanese"]),
  (.cp932, ["cp932", "932", "ms932", "mskanji", "ms_kanji"]),
  (.shiftJis2004, ["shift_jis_2004", "shiftjis2004", "sjis_2004", "s_jis_2004"]),
  (.shiftJisx0213, ["shift_jisx0213", "shiftjisx0213", "sjisx0213", "s_jisx0213"]),
  (.iso2022Jp, ["iso2022_jp", "csiso2022jp", "iso2022jp", "iso_2022_jp"]),
  (.iso2022Jp1, ["iso2022_jp_1", "iso2022jp_1", "iso_2022_jp_1"]),
  (.iso2022Jp2, ["iso2022_jp_2", "iso2022jp_2", "iso_2022_jp_2"]),
  (.iso2022Jp3, ["iso2022_jp_3", "iso2022jp_3", "iso_2022_jp_3"]),
  (.iso2022Jp2004, ["iso2022_jp_2004", "iso_2022_jp_2004", "iso2022jp_2004"]),
  (.iso2022JpExt, ["iso2022_jp_ext", "iso2022jp_ext", "iso_2022_jp_ext"])]

/-- The name that is told when bytes stand for no text. -/
def name (m : MultiByte) : String := ((all.lookup m).bind List.head?).getD ""

def read (m : MultiByte) : List Nat → Option (List Char) :=
  match m with
  | .gb2312 => runLetters (twoBytes gb2312Pair)
  | .gbk => runLetters (twoBytes gbkPair)
  | .gb18030 => runLetters gb18030Letter
  | .hz => run hzStep false
  | .big5 => runLetters (twoBytes big5Pair)
  | .big5hkscs => runLetters hkscsLetter
  | .cp950 => runLetters (twoBytes cp950Pair)
  | .eucKr => runLetters eucKrLetter
  | .cp949 => runLetters (twoBytes cp949Pair)
  | .johab => runLetters (twoBytes johabPair)
  | .iso2022Kr => run (switchedStep .kr) {}
  | .eucJp => runLetters eucJpLetter
  | .eucJis2004 => runLetters (eucJis0213Letter .second)
  | .eucJisx0213 => runLetters (eucJis0213Letter .first)
  | .shiftJis => runLetters shiftJisLetter
  | .cp932 => runLetters cp932Letter
  | .shiftJis2004 => runLetters (shiftJis0213Letter .second)
  | .shiftJisx0213 => runLetters (shiftJis0213Letter .first)
  | .iso2022Jp => run (switchedStep .jp) {}
  | .iso2022Jp1 => run (switchedStep .jp1) {}
  | .iso2022Jp2 => run (switchedStep .jp2) {}
  | .iso2022Jp3 => run (switchedStep .jp3) {}
  | .iso2022Jp2004 => run (switchedStep .jp2004) {}
  | .iso2022JpExt => run (switchedStep .jpExt) {}

def decode? (m : MultiByte) (bytes : List UInt8) : Option String :=
  (m.read (bytes.map UInt8.toNat)).map String.ofList

end MultiByte
end Quire
