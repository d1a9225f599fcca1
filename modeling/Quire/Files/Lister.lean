import Quire.Files.Glob
import Quire.Notes
import Quire.Text.Order

/-! From patterns to the files that are to be read: for each pattern its matches
in order, without those below skipped folders and without repetition. -/

namespace Quire

structure FileLister where
  root : Option FileName := none
  skip : List String :=
    [".git", ".hg", ".svn", "__pycache__", ".mypy_cache", ".pytest_cache", ".tox", ".venv",
     "node_modules"]
  hidden : Bool := false

namespace FileLister

/-- A relative pattern starts at the root, if there is one. -/
def anchored (l : FileLister) (pattern : String) : String :=
  match l.root with
  | none => pattern
  | some root =>
    if pattern.toList.head? = some '/' then pattern
    else (root.join (FileName.ofString pattern)).text

/-- Whether a folder on the way is skipped. -/
def skips (l : FileLister) (n : FileName) : Bool := n.steps.dropLast.any l.skip.contains

/-- Adds the names that are not there yet. -/
def addNew (acc : List String) : List String → List String
  | [] => acc
  | name :: rest => addNew (if acc.contains name then acc else acc ++ [name]) rest

/-- Of the matches of one pattern, in whatever order they were found, the names
of files to read. -/
def keep (l : FileLister) (t : FileTree) (found : List String) : List String :=
  ((found.mergeSort fun a b => !Text.comesBefore b a).filter fun m =>
    t.isFileText m && !l.skips (FileName.ofString m)).map fun m => (FileName.ofString m).text

def isBlank (pattern : Value) : Bool := !pattern.truthy || Text.isAllBlank pattern.plain

/-- The matches of one pattern, found by `find`. -/
def matchesOf (l : FileLister) (find : String → Except Mishap (List String)) (pattern : Value) :
    Outcome (List String) :=
  if isBlank pattern then
    .error (.fault { kind := .path, message := "empty file pattern" })
  else match find (l.anchored pattern.plain) with
    | .ok found => .ok found
    | .error e => .error (.fault
        { kind := .path
          message := "cannot expand pattern " ++ pattern.shown ++ ": " ++ e.text
          path := some pattern.plain })

def listFrom (l : FileLister) (t : FileTree) (find : String → Except Mishap (List String))
    (acc : List String) : List Value → Outcome (List String)
  | [] => .ok acc
  | pattern :: rest => do
    let found ← l.matchesOf find pattern
    listFrom l t find (addNew acc (l.keep t found)) rest

/-- One text is one pattern. -/
def given (patterns : Value) : Except Mishap (List Value) :=
  match patterns with
  | .str s => .ok [.str s]
  | v => v.members

/-- The files for some patterns. -/
def list (l : FileLister) (t : FileTree) (patterns : Value) : Outcome (List String) := do
  l.listFrom t (Glob.expand t l.hidden) [] (← given patterns)

def foundNote (found : List String) (patterns : Value) : Note :=
  ⟨.debug, s!"Discovered {found.length} file(s) from "
    ++ s!"{((given patterns).toOption.getD []).length} pattern(s)"⟩

def attempt (l : FileLister) (t : FileTree) (patterns : Value) : Attempt (List String) :=
  match l.list t patterns with
  | .ok found => ⟨[foundNote found patterns], .ok found⟩
  | .error e => .fail e

end FileLister
end Quire
