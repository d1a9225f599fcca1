import Quire.Text.Order
import Quire.Value.Extent
import Quire.Value.Sequence

/-! Writing JSON. Keys that are numbers, truth values or null turn into text;
other keys that are not text cannot be written, nor can a collection inside
itself. -/

namespace Quire.Json

/-- Layout and spelling of the written form. The indent stands in front of a line
once for each level; without one all stands on one line. -/
structure Style where
  indent : Option String
  asciiOnly : Bool
  sortKeys : Bool
  /-- Values that JSON does not have are written as their plain text. -/
  plainRest : Bool

/-- Two spaces a level, characters as they are. -/
def Style.document : Style := ⟨some "  ", false, false, true⟩
/-- One line, characters as they are. -/
def Style.inline : Style := ⟨none, false, false, true⟩
/-- Two spaces a level, ASCII only. -/
def Style.console : Style := ⟨some "  ", true, false, true⟩

def unitEscape (n : Nat) : List Char := '\\' :: 'u' :: Text.hexDigits 4 n

def escapeChar (asciiOnly : Bool) (c : Char) : List Char :=
  match c with
  | '"' => ['\\', '"']
  | '\\' => ['\\', '\\']
  | '\n' => ['\\', 'n']
  | '\r' => ['\\', 'r']
  | '\t' => ['\\', 't']
  | '\x08' => ['\\', 'b']
  | '\x0c' => ['\\', 'f']
  | _ =>
    let n := Text.codeOf c
    if n < 32 then unitEscape n
    else if n < 127 ∨ !asciiOnly then [c]
    else if n < 0x10000 then unitEscape n
    else unitEscape (0xD800 + (n - 0x10000) / 0x400) ++ unitEscape (0xDC00 + (n - 0x10000) % 0x400)

def quote (asciiOnly : Bool) (s : String) : String :=
  String.ofList ('"' :: (s.toList.flatMap (escapeChar asciiOnly) ++ ['"']))

def realText : Binary64 → String
  | .nan _ => "NaN"
  | .infinite false => "Infinity"
  | .infinite true => "-Infinity"
  | x => x.text

/-- The digits of a whole number, unless they are too many. -/
def wholeText (n : Int) : Except Mishap String :=
  if Numeral.isWritable n then .ok (toString n) else .error (.badValue Numeral.unwritable)

def keyText : Value → Except Mishap String
  | .str s => .ok s
  | .real x => .ok (realText x)
  | .bool b => .ok (if b then "true" else "false")
  | .null => .ok "null"
  | .int n => wholeText n
  | v => .error (.badKind ("keys must be str, int, float, bool or None, not " ++ v.kindName))

/-- Between two items at a level: a line break with the level's indent. -/
def Style.lineBreak (style : Style) (level : Nat) : String :=
  match style.indent with
  | none => ""
  | some unit => "\n" ++ String.join (List.replicate level unit)

/-- Items between brackets, one a line when the style indents. -/
def bracket (style : Style) (level : Nat) (opening closing : String) (items : List String) :
    String :=
  if items.isEmpty then opening ++ closing
  else
    let separator := match style.indent with
      | none => ", "
      | some _ => "," ++ style.lineBreak (level + 1)
    opening ++ style.lineBreak (level + 1) ++ separator.intercalate items ++
      style.lineBreak level ++ closing

/-- Entries as they are written, in their order or by key. -/
def Style.arrange (style : Style) (fields : List (String × String)) : List (String × String) :=
  if style.sortKeys then fields.mergeSort (fun a b => !Text.comesBefore b.1 a.1) else fields

/-- What JSON has no form for, which can still hold a number with too many digits. -/
def rest (style : Style) (v : Value) : Except Mishap String :=
  if !style.plainRest then
    .error (.badKind ("Object of type " ++ v.kindName ++ " is not JSON serializable"))
  else if v.isWritable then .ok (quote style.asciiOnly v.plain)
  else .error (.badValue Numeral.unwritable)

/-- Collections may be nested so deep and no deeper. -/
def depthLimit : Nat := 980

/-- Checks that another level can be opened. -/
def Style.enter (style : Style) (level : Nat) : Except Mishap Unit :=
  if level < depthLimit then .ok ()
  else .error (.tooDeep (if style.indent.isSome then " while calling a Python object"
    else " while encoding a JSON object"))

mutual

def writeValue (style : Style) (level : Nat) : Value → Except Mishap String
  | .null => .ok "null"
  | .bool b => .ok (if b then "true" else "false")
  | .int n => wholeText n
  | .real x => .ok (realText x)
  | .str s => .ok (quote style.asciiOnly s)
  | .list xs => do
    style.enter level
    return bracket style level "[" "]" (← writeItems style (level + 1) xs)
  | .tuple xs => do
    style.enter level
    return bracket style level "[" "]" (← writeItems style (level + 1) xs)
  | .cycle _ => .error (.badValue "Circular reference detected")
  | .map es => do
    style.enter level
    let fields ← writeFields style (level + 1) es
    return bracket style level "\x7b" "\x7d"
      ((style.arrange fields).map fun f => quote style.asciiOnly f.1 ++ ": " ++ f.2)
  | .date d => rest style (.date d)
  | .moment m => rest style (.moment m)
  | .time t => rest style (.time t)
  | .bytes b => rest style (.bytes b)
  | .set xs => rest style (.set xs)
  | .missing copy => rest style (.missing copy)

def writeItems (style : Style) (level : Nat) : List Value → Except Mishap (List String)
  | [] => .ok []
  | x :: xs => do
    let text ← writeValue style level x
    return text :: (← writeItems style level xs)

def writeFields (style : Style) (level : Nat) :
    List (Value × Value) → Except Mishap (List (String × String))
  | [] => .ok []
  | (k, v) :: es => do
    let key ← keyText k
    let text ← writeValue style level v
    return (key, text) :: (← writeFields style level es)

end

def write (style : Style) (v : Value) : Except Mishap String := writeValue style 0 v

end Quire.Json
