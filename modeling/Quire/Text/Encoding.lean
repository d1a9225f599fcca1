import Quire.Text.Case
import Quire.Text.CodePage.Tables
import Quire.Text.Escape
import Quire.Text.MultiByte.Named
import Quire.Text.Punycode
import Quire.Text.Utf7

/-! Text encodings: from bytes to text. Bytes that stand for no text are refused. -/

namespace Quire

inductive ByteOrder
  | little
  | big
  deriving DecidableEq, Repr

/-- A marked encoding starts with a mark that gives its byte order. -/
inductive Encoding
  | ascii
  | latin
  | page (p : CodePage)
  | multiByte (m : MultiByte)
  | utf8
  | markedUtf8
  | utf16 (order : ByteOrder)
  | markedUtf16
  | utf32 (order : ByteOrder)
  | markedUtf32
  | utf7
  | escaped
  | shortlyEscaped
  | punycode
  | hostName
  | unusable
  deriving DecidableEq, Repr

namespace Encoding

/-- What stops the decoding, with the name under which it is reported. -/
inductive Trouble
  | undecodable (codec : String)
  | unmarked (codec : String)
  | misformed (message : String)
  deriving DecidableEq, Repr

def Trouble.message : Trouble → String
  | .undecodable codec => "'" ++ codec ++ "' codec can't decode "
  | .unmarked codec => codec ++ " stream does not start with BOM"
  | .misformed message => message

/-- Lower case, with runs of other characters between the words as one mark. -/
def canonical (name : String) : String :=
  let step := fun (state : List Char × Bool) (c : Char) =>
    let (acc, gap) := state
    if c.isAlphanum || c = '.' then
      ((c.toLower :: if gap && !acc.isEmpty then '_' :: acc else acc), false)
    else (acc, true)
  String.ofList (name.toList.foldl step ([], false)).1.reverse

/-- The encodings that are no code pages, each with its own name first. -/
def named : List (Encoding × List String) := [
  (.utf8, ["utf_8", "u8", "utf", "utf8", "utf8_ucs2", "utf8_ucs4", "cp65001"]),
  (.markedUtf8, ["utf_8_sig"]),
  (.ascii, ["ascii", "646", "ansi_x3.4_1968", "ansi_x3_4_1968", "ansi_x3.4_1986", "cp367",
    "csascii", "ibm367", "iso646_us", "iso_646.irv_1991", "iso_ir_6", "us", "us_ascii"]),
  (.latin, ["latin_1", "8859", "cp819", "csisolatin1", "ibm819", "iso8859", "iso8859_1",
    "iso_8859_1", "iso_8859_1_1987", "iso_ir_100", "l1", "latin", "latin1"]),
  (.latin, ["charmap"]),
  (.markedUtf16, ["utf_16", "u16", "utf16"]),
  (.utf16 .little, ["utf_16_le", "unicodelittleunmarked", "utf_16le"]),
  (.utf16 .big, ["utf_16_be", "unicodebigunmarked", "utf_16be"]),
  (.markedUtf32, ["utf_32", "u32", "utf32"]),
  (.utf32 .little, ["utf_32_le", "utf_32le"]),
  (.utf32 .big, ["utf_32_be", "utf_32be"]),
  (.utf7, ["utf_7", "u7", "utf7", "unicode_1_1_utf_7"]),
  (.escaped, ["unicode_escape"]),
  (.shortlyEscaped, ["raw_unicode_escape"]),
  (.punycode, ["punycode"]),
  (.hostName, ["idna"]),
  (.unusable, ["undefined"])]

/-- Encodings that turn bytes into other bytes and never into text. -/
def byteNames : List String :=
  ["base64_codec", "base64", "base_64", "bz2_codec", "bz2", "hex_codec", "hex", "quopri_codec",
   "quopri", "quoted_printable", "quotedprintable", "rot_13", "rot13", "uu_codec", "uu",
   "zlib_codec", "zip", "zlib"]

def all : List (Encoding × List String) :=
  named ++ CodePage.all.map (fun p => (.page p, p.names))
    ++ MultiByte.all.map fun (m, names) => (.multiByte m, names)

/-- A dot counts as a mark between words, but not within the own name. -/
def answersTo (name : String) (names : List String) : Bool :=
  names.contains name || name.toList.contains '.' && names.tail.contains (name.replace "." "_")

/-- Spelling matters little: case and marks between the words are free. -/
def ofName? (name : String) : Option Encoding :=
  (all.find? fun e => answersTo (canonical name) e.2).map (·.1)

/-- What is said of a name that no text encoding has. -/
def unknown (name : String) : String :=
  if byteNames.contains (canonical name) then
    "'" ++ name ++ "' is not a text encoding; use codecs.open() to handle arbitrary codecs"
  else "unknown encoding: " ++ name

def latinText (bytes : List UInt8) : String :=
  String.ofList (bytes.map fun b => Char.ofNat b.toNat)

def utf8Text? (bytes : List UInt8) : Option String := String.fromUTF8? ⟨bytes.toArray⟩

/-- Numbers from bytes taken `width` at a time; none when some are left over. -/
def units? (order : ByteOrder) (width : Nat) (bytes : List UInt8) : Option (List Nat) :=
  let rec go : List UInt8 → List UInt8 → Option (List Nat)
    | [], [] => some []
    | [], _ => none
    | b :: rest, held =>
      if held.length + 1 = width then do
        let ordered := match order with
          | .little => b :: held
          | .big => held.reverse ++ [b]
        return ordered.foldl (fun n d => n * 256 + d.toNat) 0 :: (← go rest [])
      else go rest (b :: held)
  go bytes []

def char? (n : Nat) : Option Char :=
  if h : n.isValidChar then some (Char.ofNatAux n h) else none

def fromUnits16 : List Nat → Option (List Char)
  | [] => some []
  | u :: rest =>
    if 0xD800 ≤ u ∧ u < 0xDC00 then
      match rest with
      | v :: rest => do
        if 0xDC00 ≤ v ∧ v < 0xE000 then
          let c ← char? (0x10000 + (u - 0xD800) * 0x400 + (v - 0xDC00))
          return c :: (← fromUnits16 rest)
        else none
      | [] => none
    else do return (← char? u) :: (← fromUnits16 rest)

def utf16Text? (order : ByteOrder) (bytes : List UInt8) : Option String := do
  return String.ofList (← fromUnits16 (← units? order 2 bytes))

def utf32Text? (order : ByteOrder) (bytes : List UInt8) : Option String := do
  return String.ofList (← (← units? order 4 bytes).mapM char?)

def orderName : ByteOrder → String
  | .little => "le"
  | .big => "be"

def orUndecodable (codec : String) : Option String → Except Trouble String
  | some s => .ok s
  | none => .error (.undecodable codec)

/-- Decodes after the mark; without one the bytes must at least be well formed
in the little order, and only empty text passes. -/
def marked (codec : String) (text? : ByteOrder → List UInt8 → Option String)
    (little big : List UInt8) (bytes : List UInt8) : Except Trouble String :=
  if little.isPrefixOf bytes then
    orUndecodable (codec ++ "-le") (text? .little (bytes.drop little.length))
  else if big.isPrefixOf bytes then
    orUndecodable (codec ++ "-be") (text? .big (bytes.drop big.length))
  else do
    let s ← orUndecodable (codec ++ "-le") (text? .little bytes)
    if s.isEmpty then return s else throw (.unmarked (Text.upper codec))

/-- Bytes as characters, all of them below 128. -/
def asciiText (bytes : List UInt8) : Except Trouble String :=
  orUndecodable "ascii" (if bytes.all (· < 128) then some (latinText bytes) else none)

def decodePunycode (bytes : List UInt8) : Except Trouble String := do
  match Text.Punycode.decode (← asciiText bytes).toList with
  | .ok cs => return String.ofList cs
  | .error e => throw (.misformed e.message)

/-- One part of a host name; only what comes after a mark of its own is decoded. -/
def hostLabel (label : String) : Except Trouble String :=
  if label.startsWith "xn--" then
    match Text.Punycode.decode (label.toList.drop 4) with
    | .ok cs => .ok (String.ofList cs)
    | .error e => .error (.misformed ("decoding with 'punycode' codec failed (UnicodeError: "
        ++ e.message ++ ")"))
  else .ok label

def decodeHostName (bytes : List UInt8) : Except Trouble String := do
  return ".".intercalate (← ((← asciiText bytes).splitOn ".").mapM hostLabel)

def decode (e : Encoding) (bytes : List UInt8) : Except Trouble String :=
  let escaped := fun (codec : String) read =>
    orUndecodable codec ((Text.Escape.decode? read (latinText bytes).toList).map String.ofList)
  match e with
  | .ascii => asciiText bytes
  | .latin => .ok (latinText bytes)
  | .page p => orUndecodable "charmap" (p.decode? bytes)
  | .multiByte m => orUndecodable m.name (m.decode? bytes)
  | .utf7 => orUndecodable "utf7" ((Text.Utf7.decode? none bytes).map String.ofList)
  | .escaped => escaped "unicodeescape" Text.Escape.full?
  | .shortlyEscaped => escaped "rawunicodeescape" Text.Escape.short?
  | .punycode => decodePunycode bytes
  | .hostName => decodeHostName bytes
  | .unusable => .error (.misformed "undefined encoding")
  | .utf8 => orUndecodable "utf-8" (utf8Text? bytes)
  | .markedUtf8 =>
    let mark : List UInt8 := [0xEF, 0xBB, 0xBF]
    orUndecodable "utf-8" (utf8Text? (if mark.isPrefixOf bytes then bytes.drop 3 else bytes))
  | .utf16 order => orUndecodable ("utf-16-" ++ orderName order) (utf16Text? order bytes)
  | .markedUtf16 => marked "utf-16" utf16Text? [0xFF, 0xFE] [0xFE, 0xFF] bytes
  | .utf32 order => orUndecodable ("utf-32-" ++ orderName order) (utf32Text? order bytes)
  | .markedUtf32 => marked "utf-32" utf32Text? [0xFF, 0xFE, 0, 0] [0, 0, 0xFE, 0xFF] bytes

end Encoding

namespace Text

def escapedCode (n : Nat) : String :=
  if n < 0x10000 then "\\u" ++ String.ofList (hexDigits 4 n)
  else "\\U" ++ String.ofList (hexDigits 8 n)

/-- What is said of the first halves of pairs that stand in a text, so many in a
row from a place on. -/
def unencodable (place : Nat) (halves : List Char) : String :=
  "'utf-8' codec can't encode " ++ (match halves with
    | [c] => "character '" ++ escapedCode (codeOf c) ++ s!"' in position {place}"
    | cs => s!"characters in position {place}-{place + cs.length - 1}")
    ++ ": surrogates not allowed"

/-- The bytes of a text in UTF-8; halves of pairs have none. -/
def utf8Bytes (s : String) : Except String (List UInt8) :=
  let (before, rest) := s.toList.span fun c => !isLoneHalf c
  if rest.isEmpty then .ok s.toUTF8.toList
  else .error (unencodable before.length (rest.takeWhile isLoneHalf))

end Text

/-- Every kind of line break becomes a line feed. -/
def plainBreaks : List Char → List Char
  | '\r' :: '\n' :: rest => '\n' :: plainBreaks rest
  | '\r' :: rest => '\n' :: plainBreaks rest
  | c :: rest => c :: plainBreaks rest
  | [] => []

theorem not_mem_plainBreaks (cs : List Char) : '\r' ∉ plainBreaks cs := by
  fun_induction plainBreaks cs with
  | case1 rest ih => simpa using ih
  | case2 rest _ ih => simpa using ih
  | case3 c rest _ hc ih => simpa [ih] using fun h => hc h.symm
  | case4 => simp

end Quire
