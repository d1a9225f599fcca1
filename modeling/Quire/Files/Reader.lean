import Quire.Files.Tree
import Quire.Text.Encoding
import Quire.Failure

/-! Reading a file as text: the bytes are decoded and line breaks made plain.
What stops the reading becomes a fault of its own kind, except a name that no
file can have and an encoding nobody knows. -/

namespace Quire

structure FileReader where
  /-- The name of the encoding; null stands for UTF-8. -/
  encoding : Value := .str "utf-8"
  /-- The largest size that is read, in bytes; null sets none. -/
  limit : Value := .int 16777216

namespace FileTree

/-- No name has half of a pair of units or a zero character in it. -/
def refuseName (path : String) : Except Mishap Unit := do
  discard <| (Text.utf8Bytes path).mapError (Mishap.mk .unencodable)
  if path.toList.contains '\x00' then throw (.badValue "embedded null byte")

/-- The text of a file in UTF-8, as the file system tells of failures. -/
def readText (t : FileTree) (n : FileName) : Except Mishap String := do
  refuseName n.text
  match t.read n with
  | .error e => throw (e.toMishap n.text)
  | .ok bytes =>
    match Encoding.decode .utf8 bytes with
    | .error e => throw ⟨.undecodable, e.message⟩
    | .ok s => return String.ofList (plainBreaks s.toList)

/-- The tree afterwards, and whether all went well. -/
abbrev Change := FileTree × Except Mishap Unit

/-- Writes text in UTF-8 into a folder that must be there. Text that cannot be
written leaves an empty file. -/
def replaceText (t : FileTree) (n : FileName) (s : String) : Change :=
  match refuseName n.text with
  | .error e => (t, .error e)
  | .ok () =>
    let bytes := (Text.utf8Bytes s).mapError (Mishap.mk .unencodable)
    match t.write n (bytes.toOption.getD []) with
    | .error e => (t, .error (e.toMishap n.text))
    | .ok t => (t, bytes.map fun _ => ())

/-- Writes text in UTF-8 and makes the folders that are missing. -/
def writeText (t : FileTree) (n : FileName) (s : String) : Change :=
  match refuseName n.text with
  | .error e => (t, .error e)
  | .ok () => match t.lay n.parent with
    | (t, .error (e, at')) => (t, .error (e.toMishap at'.text))
    | (t, .ok ()) => t.replaceText n s

end FileTree

namespace FileReader

def fault (kind : Fault.Kind) (message path : String) : Failure :=
  .fault { kind, message, path := some path }

def troubleFault (path : String) (n : FileName) : FileTree.Trouble → Failure
  | .missing => fault .notFound ("file not found: " ++ path) path
  | .isFolder => fault .read ("not a file: " ++ path) path
  | e => fault .read ("cannot read " ++ path ++ ": " ++ (e.toMishap n.text).text) path

/-- The limit may be any number. -/
def isOver (r : FileReader) (size : Nat) : Except Mishap Bool :=
  match r.limit.number? with
  | some limit => .ok (limit.less (.whole size))
  | none => .error (.badKind ("'>' not supported between instances of 'int' and '"
      ++ r.limit.kindName ++ "'"))

/-- The size is looked at only where there is a limit. -/
def checkSize (r : FileReader) (t : FileTree) (n : FileName) (path : String) : Outcome Unit := do
  if r.limit.isNull then return
  FileTree.refuseName n.text
  match t.size n with
  | .error e => throw (troubleFault path n e)
  | .ok size =>
    if ← (r.isOver size : Except Mishap _) then
      throw (fault .read ("file exceeds " ++ r.limit.plain ++ " bytes") path)

/-- The name of the encoding; without a name of its own it is UTF-8. -/
def codecName (r : FileReader) : Except Mishap String :=
  match r.encoding with
  | .null => .ok "utf-8"
  | .str "locale" => .ok "utf-8"
  | .str s =>
    if s.toList.contains '\x00' then .error (.badValue "embedded null character") else .ok s
  | v => .error (.badKind ("open() argument 'encoding' must be str or None, not " ++ v.kindName))

def readBytes (t : FileTree) (n : FileName) (path : String) : Outcome (List UInt8) := do
  FileTree.refuseName n.text
  match t.read n with
  | .error e => throw (troubleFault path n e)
  | .ok bytes => return bytes

def decode (r : FileReader) (codec path : String) (bytes : List UInt8) : Outcome String :=
  match Encoding.ofName? codec with
  | none => .error (.mishap ⟨.noName, Encoding.unknown codec⟩)
  | some e => match e.decode bytes with
    | .ok s => .ok (String.ofList (plainBreaks s.toList))
    | .error (.undecodable codec) =>
      .error (fault .read ("cannot decode " ++ path ++ " as " ++ r.encoding.plain ++ ": "
        ++ (Encoding.Trouble.undecodable codec).message) path)
    | .error e => .error (.mishap ⟨.unicode, e.message⟩)

def read (r : FileReader) (t : FileTree) (path : String) : Outcome String := do
  let n := FileName.ofString path
  r.checkSize t n path
  let codec ← (r.codecName : Except Mishap _)
  r.decode codec path (← readBytes t n path)

end FileReader
end Quire
