import Quire.Files.Name

/-! A tree of files and folders, as a list of absolute places with what stands
there. Names are looked up from a home folder, part by part: every part but
the last must be a folder. -/

namespace Quire

/-- An absolute place, as the parts below the root. -/
abbrev Place := List String

inductive FileTree.Node
  | folder
  | file (bytes : List UInt8)
  deriving DecidableEq

structure FileTree where
  home : Place
  nodes : List (Place × FileTree.Node)

namespace FileTree

inductive Trouble
  | missing
  | exists
  | notFolder
  | isFolder
  | tooLong
  deriving DecidableEq, Repr

def Trouble.message : Trouble → String
  | .missing => "[Errno 2] No such file or directory"
  | .exists => "[Errno 17] File exists"
  | .notFolder => "[Errno 20] Not a directory"
  | .isFolder => "[Errno 21] Is a directory"
  | .tooLong => "[Errno 36] File name too long"

def Trouble.kind : Trouble → Mishap.Kind
  | .missing => .missingFile
  | .exists => .existingFile
  | .notFolder => .notDirectory
  | .isFolder => .isDirectory
  | .tooLong => .system

def Trouble.toMishap (e : Trouble) (path : String) : Mishap :=
  ⟨e.kind, e.message ++ ": " ++ Text.quoted path⟩

/-- The root is always a folder. -/
def node? (t : FileTree) (place : Place) : Option Node :=
  if place = [] then some .folder else t.nodes.lookup place

def isFile (t : FileTree) (place : Place) : Bool :=
  match t.node? place with
  | some (.file _) => true
  | _ => false

def isFolder (t : FileTree) (place : Place) : Bool := t.node? place = some .folder

def isTooLong (part : String) : Bool := 255 < part.utf8ByteSize

/-- From a place down the parts; an empty part or a dot asks for a folder. -/
def walk (t : FileTree) (place : Place) : List String → Except Trouble Place
  | [] => .ok place
  | part :: rest =>
    match t.node? place with
    | none => .error .missing
    | some (.file _) => .error .notFolder
    | some .folder =>
      if part = "" ∨ part = "." then walk t place rest
      else if part = ".." then walk t place.dropLast rest
      else if isTooLong part then .error .tooLong
      else if (t.node? (place ++ [part])).isSome then walk t (place ++ [part]) rest
      else .error .missing

def start (t : FileTree) (n : FileName) : Place := if n.isAbsolute then [] else t.home

/-- A path must be shorter than this, in bytes. -/
def pathLimit : Nat := 4096

def locate (t : FileTree) (n : FileName) : Except Trouble Place :=
  if pathLimit ≤ n.text.utf8ByteSize then .error .tooLong else t.walk (t.start n) n.parts

/-- The place of a path as it is spelled; empty text is no place. -/
def locateText (t : FileTree) (s : String) : Except Trouble Place :=
  if s = "" then .error .missing
  else if pathLimit ≤ s.utf8ByteSize then .error .tooLong
  else t.walk (if s.toList.head? = some '/' then [] else t.home) (FileName.pieces s)

def existsText (t : FileTree) (s : String) : Bool :=
  !s.toList.contains '\x00' && (t.locateText s).isOk

def nodeText? (t : FileTree) (s : String) : Option Node :=
  if s.toList.contains '\x00' then none
  else (t.locateText s).toOption.bind t.node?

def isFileText (t : FileTree) (s : String) : Bool :=
  match t.nodeText? s with
  | some (.file _) => true
  | _ => false

def isFolderText (t : FileTree) (s : String) : Bool := t.nodeText? s = some .folder

/-- What stands right below a folder, in the order of the tree. -/
def children (t : FileTree) (place : Place) : List (String × Node) :=
  t.nodes.filterMap fun (p, node) =>
    match p.getLast? with
    | some last => if p.dropLast = place then some (last, node) else none
    | none => none

/-- Overwrites in place; a new entry goes last. -/
def putIn (place : Place) (node : Node) : List (Place × Node) → List (Place × Node)
  | [] => [(place, node)]
  | (p, old) :: rest => if place = p then (p, node) :: rest else (p, old) :: putIn place node rest

def put (t : FileTree) (place : Place) (node : Node) : FileTree :=
  { t with nodes := putIn place node t.nodes }

/-- A place for a new entry: it is free and its folder is there. -/
def placeFor (t : FileTree) (n : FileName) : Except Trouble Place := do
  return (← t.walk (t.start n) n.parts.dropLast) ++ [n.last]

def read (t : FileTree) (n : FileName) : Except Trouble (List UInt8) := do
  match t.node? (← t.locate n) with
  | some (.file bytes) => return bytes
  | some .folder => throw .isFolder
  | none => throw .missing

/-- A folder counts as one block. -/
def size (t : FileTree) (n : FileName) : Except Trouble Nat := do
  match t.node? (← t.locate n) with
  | some (.file bytes) => return bytes.length
  | _ => return 4096

/-- Writes over the file of that name, or makes a new one in its folder. -/
def write (t : FileTree) (n : FileName) (bytes : List UInt8) : Except Trouble FileTree := do
  match t.locate n with
  | .ok place => if t.isFolder place then throw .isFolder else return t.put place (.file bytes)
  | .error .missing => return t.put (← t.placeFor n) (.file bytes)
  | .error e => throw e

def makeFolder (t : FileTree) (n : FileName) : Except Trouble FileTree := do
  match t.locate n with
  | .ok _ => throw .exists
  | .error .missing => return t.put (← t.placeFor n) .folder
  | .error e => throw e

/-- The tree afterwards, and where it came to a stop if it did. -/
abbrev Laid := FileTree × Except (Trouble × FileName) Unit

/-- A failure carries the name at which it arose. -/
def makeOne (t : FileTree) (n : FileName) : Laid :=
  match t.makeFolder n with
  | .ok u => (u, .ok ())
  | .error e =>
    if e ≠ .missing ∧ (t.locate n).toOption.any t.isFolder then (t, .ok ())
    else (t, .error (e, n))

/-- Makes the folder and those above it that are missing. `count` is the number
of parts that the name has. -/
def layUpTo (t : FileTree) (n : FileName) : Nat → Laid
  | 0 => t.makeOne n
  | count + 1 =>
    match t.makeFolder n with
    | .error .missing =>
      match layUpTo t n.parent count with
      | (above, .ok ()) => above.makeOne n
      | stopped => stopped
    | _ => t.makeOne n

/-- Folders that were made before one fails stay. -/
def lay (t : FileTree) (n : FileName) : Laid := t.layUpTo n n.parts.length

def makeFolders (t : FileTree) (n : FileName) : Except (Trouble × FileName) FileTree :=
  (t.lay n).2.map fun () => (t.lay n).1

/-- The files of the second tree that are new or differ, with their bytes. -/
def changed (before after : FileTree) : List (Place × List UInt8) :=
  after.nodes.filterMap fun (place, node) =>
    match node with
    | .folder => none
    | .file bytes => if before.node? place = some node then none else some (place, bytes)

/-- A tree with nothing but the home folder and the folders above it. -/
def empty (home : Place) : FileTree :=
  ⟨home, (List.range home.length).map fun i => (home.take (i + 1), .folder)⟩

theorem lookup_putIn (place q : Place) (node : Node) (nodes : List (Place × Node)) :
    (putIn place node nodes).lookup q = if q = place then some node else nodes.lookup q := by
  induction nodes with
  | nil =>
    by_cases h : q = place
    · simp [putIn, h]
    · simp [putIn, List.lookup_cons, beq_eq_false_iff_ne.2 h, h]
  | cons entry rest ih =>
    obtain ⟨p, old⟩ := entry
    by_cases hp : place = p
    · subst hp
      by_cases hq : q = place
      · simp [putIn, hq]
      · simp [putIn, List.lookup_cons, hq, beq_eq_false_iff_ne.2 hq]
    · by_cases hq : q = p
      · subst hq
        have : ¬ q = place := fun h => hp h.symm
        simp [putIn, hp, this]
      · simp [putIn, hp, List.lookup_cons, beq_eq_false_iff_ne.2 hq, ih]

theorem node?_put (t : FileTree) (place q : Place) (node : Node) (hp : place ≠ []) :
    (t.put place node).node? q = if q = place then some node else t.node? q := by
  by_cases hq : q = []
  · have : ¬ q = place := fun h => hp (h.symm.trans hq)
    rw [if_neg this]
    simp [node?, hq]
  · simp [node?, put, hq, lookup_putIn]

end FileTree
end Quire
