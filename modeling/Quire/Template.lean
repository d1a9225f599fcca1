import Quire.Files.Reader
import Quire.Notes
import Quire.Path
import Quire.Serialize
import Quire.Structured
import Quire.Text.Case
import Quire.Text.Word

/-! Templates: text or a tree in which placeholders give way to values of the
aggregate. A placeholder is a dot path between braces. A text that is nothing but
a placeholder becomes the value itself; within other text the value is written
out. A placeholder whose path leads nowhere stays as it is. -/

namespace Quire

structure Template where
  path : String
  /-- `json`, `yaml` or `text`. -/
  format : String
  body : Value

namespace Template

inductive Piece
  | literal (c : Char)
  | hole (path : List Char)
  deriving DecidableEq, Repr

def isKeyStart (c : Char) : Bool := c.isAlpha || c = '_'
def isKeyChar (c : Char) : Bool := Text.isWord c || c = '-'

def openBrace : Char := Char.ofNat 123
def closeBrace : Char := Char.ofNat 125

/-- One key with its brackets, if it has them, and the text after it. -/
def key? : List Char → Option (List Char × List Char)
  | [] => none
  | c :: rest =>
    if isKeyStart c then
      let name := c :: rest.takeWhile isKeyChar
      match rest.dropWhile isKeyChar with
      | '[' :: ']' :: after => some (name ++ ['[', ']'], after)
      | after => some (name, after)
    else none

/-- Keys up to the closing brace. `count` is an upper bound of the keys. -/
def keys? : Nat → List Char → Option (List Char × List Char)
  | 0, _ => none
  | count + 1, cs =>
    match key? cs with
    | none => none
    | some (name, c :: after) =>
      if c = closeBrace then some (name, after)
      else if c = '.' then (keys? count after).map fun (more, rest) => (name ++ '.' :: more, rest)
      else none
    | some (_, []) => none

/-- A placeholder at the start of the text, and what follows it. -/
def hole? (cs : List Char) : Option (List Char × List Char) :=
  match cs with
  | [] => none
  | c :: rest => if c = openBrace then keys? rest.length rest else none

/-- Cuts a text into placeholders and the characters between them. `count` is an
upper bound of the pieces. -/
def cut : Nat → List Char → List Piece
  | 0, _ => []
  | _ + 1, [] => []
  | count + 1, c :: rest =>
    match hole? (c :: rest) with
    | some (path, after) => .hole path :: cut count after
    | none => .literal c :: cut count rest

def pieces (s : String) : List Piece := cut s.toList.length s.toList

def Piece.render : Piece → List Char
  | .literal c => [c]
  | .hole path => openBrace :: path ++ [closeBrace]

/-- The value at a path: a list when the path expands. -/
def lookup (data : Value) (path : String) : Except PathError (Option Value) :=
  if path.toList.contains '[' then do return some (.list (← Path.collect data path))
  else Path.find data path

/-- Values in text: lists and mappings as JSON on one line, the rest as it reads. -/
def inText : Value → Except Mishap String
  | .map es => Json.write .inline (.map es)
  | .list xs => Json.write .inline (.list xs)
  | .cycle mapping => Json.write .inline (.cycle mapping)
  | .int n => Json.wholeText n
  | v => .ok v.plain

def Piece.fill (data : Value) (p : Piece) : Except Mishap String :=
  match p with
  | .literal c => .ok (String.singleton c)
  | .hole path => do
    match ← lookup data (String.ofList path) with
    | some v => inText v
    | none => return String.ofList p.render

def fillText (data : Value) (s : String) : Except Mishap String := do
  return String.join (← (pieces s).mapM (Piece.fill data))

/-- A text in a tree. -/
def fillLeaf (data : Value) (s : String) : Except Mishap Value :=
  match pieces s with
  | [.hole path] => do return (← lookup data (String.ofList path)).getD (.str s)
  | _ => do return .str (← fillText data s)

mutual

def fill (data : Value) : Value → Except Mishap Value
  | .map es => do return .map (← fillFields data es)
  | .list xs => do return .list (← fillItems data xs)
  | .str s => fillLeaf data s
  | v => .ok v

def fillItems (data : Value) : List Value → Except Mishap (List Value)
  | [] => .ok []
  | x :: xs => do
    let y ← fill data x
    return y :: (← fillItems data xs)

def fillFields (data : Value) : List (Value × Value) → Except Mishap (List (Value × Value))
  | [] => .ok []
  | (k, v) :: es => do
    let w ← fill data v
    return (k, w) :: (← fillFields data es)

end

/-- Trees may be nested so deep and no deeper. -/
def depthLimit : Nat := 485

def render (t : Template) (data : Value) : Except Mishap String :=
  if t.format = "text" then
    match t.body with
    | .str s => fillText data s
    | v => .error (.badKind ("expected string or bytes-like object, got '" ++ v.kindName ++ "'"))
  else if t.body.isDeeper depthLimit then .error (.tooDeep " in comparison")
  else do serialize (← fill data t.body) t.format

def formatOf (n : FileName) : String :=
  match Text.lower n.suffix with
  | ".json" => "json"
  | ".yml" => "yaml"
  | ".yaml" => "yaml"
  | _ => "text"

def fault (message : String) (n : FileName) : Failure :=
  .fault { kind := .template, message, path := some n.text }

def parse (n : FileName) (format : Structured.Format) (raw : String) : Outcome Value :=
  match Structured.read format raw with
  | .ok v => .ok v
  | .error (.unreadable reason) =>
    .error (fault ("cannot parse template " ++ n.text ++ ": " ++ reason) n)
  | .error (.other m) => .error (.mishap m)

def bodyOf (n : FileName) (raw : String) : Outcome Value :=
  match formatOf n with
  | "json" => parse n .json raw
  | "yaml" => parse n .yaml raw
  | _ => .ok (.str raw)

def readRaw (tree : FileTree) (n : FileName) : Outcome String :=
  match tree.readText n with
  | .ok s => .ok s
  | .error m =>
    if m.kind.isSystem then .error (fault ("cannot read template " ++ n.text ++ ": " ++ m.text) n)
    else .error (.mishap m)

def load (tree : FileTree) (n : FileName) : Attempt Template := do
  let body ← bodyOf n (← readRaw tree n)
  Attempt.note .debug ("Loaded " ++ formatOf n ++ " template " ++ n.text)
  return ⟨n.text, formatOf n, body⟩

/-- Writes the finished text and tells where; trouble with the file system is a
fault. -/
def writeOutput (tree : FileTree) (n : FileName) (s : String) : FileTree × Outcome String :=
  match tree.writeText n s with
  | (after, .ok ()) => (after, .ok n.text)
  | (after, .error m) =>
    (after, .error (if m.kind.isSystem then
      fault ("cannot write output " ++ n.text ++ ": " ++ m.text) n else .mishap m))

/-- Only text is written; anything else is refused once its folder is there. -/
def writeGiven (tree : FileTree) (n : FileName) (v : Value) : FileTree × Outcome String :=
  match v with
  | .str s => writeOutput tree n s
  | v => match tree.makeFolders n.parent with
    | .ok after => (after, .error (.mishap (.badKind ("data must be str, not " ++ v.kindName))))
    | .error _ => writeOutput tree n ""

end Template
end Quire
