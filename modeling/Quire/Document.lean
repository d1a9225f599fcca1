import Quire.Files.Name
import Quire.Frontmatter
import Quire.Notes
import Quire.Schema.Rule
import Quire.Text.Case
import Quire.Text.Order

/-! Documents: where they were read, their metadata and the text after it. A
path is checked and put into one form, the file is read and cut, lists are
flattened, and the rules are applied; the first failure ends it. -/

namespace Quire

structure Document where
  path : String
  metadata : Entries
  body : String

namespace Document

/-- A document has a path, and metadata that can be taken as a mapping. -/
def create (path : String) (metadata : Value) (body : String) : Except Mishap Document := do
  if path = "" then throw (.badValue "Document requires a non-empty path")
  return ⟨path, ← metadata.toEntries, body⟩

def withMetadata (d : Document) (metadata : Value) : Except Mishap Document :=
  create d.path metadata d.body

inductive PathTrouble
  | blank
  | zero
  | folder
  | badSuffix (accepted : List String)

def PathTrouble.message : PathTrouble → String
  | .blank => "file path must be a non-empty string"
  | .zero => "file path contains a NUL byte"
  | .folder => "file path names a directory"
  | .badSuffix accepted =>
    "unsupported file extension; expected one of " ++ (Value.list (accepted.map .str)).shown

/-- Backslashes become slashes. -/
def withSlashes (path : String) : String :=
  String.ofList (path.toList.map fun c => if c = '\\' then '/' else c)

def loweredSuffix : Value → Except Mishap String
  | .str s => .ok (Text.lower s)
  | v => .error (.noField ("'" ++ v.kindName ++ "' object has no attribute 'lower'"))

/-- The accepted endings in lower case, each once, in order. -/
def acceptedSuffixes (suffixes : List Value) : Except Mishap (List String) := do
  let lowered ← suffixes.mapM loweredSuffix
  return lowered.eraseDups.mergeSort fun a b => !Text.comesBefore b a

/-- A usable path in its one form. -/
def normalPath (path : String) : Except PathTrouble String :=
  if Text.isAllBlank path then .error .blank
  else if path.toList.contains '\x00' then .error .zero
  else if path.toList.getLast?.any fun c => c = '/' || c = '\\' then .error .folder
  else .ok (withSlashes path)

/-- Which of the endings the path should have had, if it has none of them. -/
def badSuffix? (suffixes : Option (List Value)) (path : String) :
    Except Mishap (Option (List String)) :=
  match suffixes with
  | none => .ok none
  | some given => do
    let accepted ← acceptedSuffixes given
    return if accepted.contains (Text.lower (FileName.ofString path).suffix) then none
      else some accepted

def refuse (path : Value) (e : PathTrouble) : Failure :=
  .fault { kind := .path, message := e.message, path := some path.plain }

/-- The path in its one form, if it has an accepted ending; what is no text is
refused as blank. -/
def checkPath (suffixes : Option (List Value)) (path : Value) : Outcome String :=
  match path with
  | .str s => match normalPath s with
    | .error e => .error (refuse path e)
    | .ok normal => do
      match ← (badSuffix? suffixes normal : Except Mishap _) with
      | none => return normal
      | some accepted => throw (refuse path (.badSuffix accepted))
  | _ => .error (refuse path .blank)

end Document

/-- How documents come to be: from where text is read, how it is cut, and which
lists are flattened. -/
structure Intake where
  read : String → Outcome String
  extract : String → String → Outcome Extracted
  suffixes : Option (List Value) := none
  flatten : List String := []

namespace Intake

/-- The metadata with one list flattened; a list inside itself has no end. -/
def flattenOne (metadata : Entries) (path : String) : Except Mishap Entries := do
  match ← Path.get (.map metadata) path with
  | some v => if Path.isEndless v then throw (.tooDeep "")
  | none => pure ()
  Path.flattenAt metadata path

def flattenAll (paths : List String) (metadata : Entries) : Except Mishap Entries :=
  paths.foldlM flattenOne metadata

def validate (rules : Option RuleSet) (metadata : Entries) (path : String) : Outcome Unit :=
  match rules with
  | some rs => if rs.rules.isEmpty then .ok () else rs.validate (.map metadata) (some path)
  | none => .ok ()

/-- What becomes of the text of a document. -/
def fromText (i : Intake) (rules : Option RuleSet) (path text : String) : Attempt Document := do
  let found ← i.extract text path
  Attempt.note .debug (s!"Extracted {found.metadata.length} metadata key(s) from " ++ path)
  let metadata ← (flattenAll i.flatten found.metadata : Except Mishap _)
  validate rules metadata path
  return ⟨path, metadata, found.body⟩

/-- A document from the file at a path, in the steps that are told of. -/
def process (i : Intake) (rules : Option RuleSet) (path : Value) : Attempt Document := do
  let path ← Document.checkPath i.suffixes path
  Attempt.note .debug ("Reading " ++ path)
  i.fromText rules path (← i.read path)

end Intake
end Quire
