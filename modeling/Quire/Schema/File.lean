import Quire.Files.Reader
import Quire.Structured
import Quire.Text.Case

/-! Schema files: YAML by their ending, JSON otherwise, with a mapping at the
top. -/

namespace Quire.Schema

inductive FileError
  | missing (path : String)
  | unreadable (path reason : String)
  | badForm (path reason : String)
  | notMapping (path : String)
  | mishap (m : Mishap)

namespace FileError

def toFailure : FileError → Failure
  | .missing path => .fault (.configuration ("schema file not found: " ++ path) (some path))
  | .unreadable path reason =>
    .fault (.configuration ("cannot read schema " ++ path ++ ": " ++ reason) (some path))
  | .badForm path reason =>
    .fault (.configuration ("cannot parse schema " ++ path ++ ": " ++ reason) (some path))
  | .notMapping path =>
    .fault (.configuration ("schema root must be an object: " ++ path) (some path))
  | .mishap m => .mishap m

end FileError

def formatOf (n : FileName) : Structured.Format :=
  if [".yml", ".yaml"].contains (Text.lower n.suffix) then .yaml else .json

def fileError (n : FileName) (m : Mishap) : FileError :=
  if m.kind = .missingFile then .missing n.text
  else if m.kind.isSystem then .unreadable n.text m.text
  else .mishap m

/-- The mapping that a schema file holds. -/
def readFile (t : FileTree) (n : FileName) : Except FileError Entries :=
  match t.readText n with
  | .error m => .error (fileError n m)
  | .ok s =>
    match Structured.read (formatOf n) s with
    | .error (.unreadable reason) => .error (.badForm n.text reason)
    | .error (.other m) => .error (.mishap m)
    | .ok (.map es) => .ok es
    | .ok _ => .error (.notMapping n.text)

end Quire.Schema
