import Quire.Schema.File
import Quire.Value.Extent

/-! References inside a schema. A mapping with a text under `$ref` stands for
what the reference names, with its own other entries laid over it. The part
after `#` is a pointer into a document; a part before it names another file,
from the folder of the file at hand. Following a reference twice along one
chain is an error. -/

namespace Quire.Schema

inductive ReferenceError
  | circular (chain : List String)
  | unresolvable (pointer : String)
  | needsFile (reference : String)
  | file (e : FileError)
  | tooDeep

namespace ReferenceError

def toFailure : ReferenceError → Failure
  | .circular chain => .fault (.configuration ("circular $ref: " ++ " -> ".intercalate chain) none)
  | .unresolvable pointer =>
    .fault (.configuration ("unresolvable $ref pointer: #/" ++ pointer) none)
  | .needsFile reference =>
    .fault (.configuration
      ("relative $ref " ++ Text.quoted reference ++ " needs a schema loaded from a file") none)
  | .file e => e.toFailure
  | .tooDeep => .mishap (.tooDeep " in comparison")

end ReferenceError

namespace Pointer

/-- One key of a pointer as it is written: `~1` for a slash, `~0` for a tilde. -/
def unescapeSlash : List Char → List Char
  | '~' :: '1' :: rest => '/' :: unescapeSlash rest
  | c :: rest => c :: unescapeSlash rest
  | [] => []

def unescapeTilde : List Char → List Char
  | '~' :: '0' :: rest => '~' :: unescapeTilde rest
  | c :: rest => c :: unescapeTilde rest
  | [] => []

def unescape (cs : List Char) : List Char := unescapeTilde (unescapeSlash cs)

def escapeChar : Char → List Char
  | '~' => ['~', '0']
  | '/' => ['~', '1']
  | c => [c]

def escape (cs : List Char) : List Char := cs.flatMap escapeChar

/-- The keys of a pointer; empty pieces do not count. -/
def keys (pointer : List Char) : List String :=
  ((splitChars '/' pointer).filter fun piece => !piece.isEmpty).map fun piece =>
    String.ofList (unescape piece)

def withoutSlashes (pointer : List Char) : String := String.ofList (pointer.dropWhile (· = '/'))

/-- Down through mappings, key by key. -/
def descend : List String → Value → Option Value
  | [], v => some v
  | k :: rest, .map es => (Entries.field? es k).bind (descend rest)
  | _ :: _, _ => none

def resolve (root : Entries) (pointer : List Char) : Except ReferenceError Value :=
  match descend (keys pointer) (.map root) with
  | some v => .ok v
  | none => .error (.unresolvable (withoutSlashes pointer))

end Pointer

/-- The document in which references are looked up, and the folder from which it
names other files; a document that was not read from a file has none. -/
structure Context where
  root : Entries
  folder : Option FileName

/-- A reference cut at its first `#`. -/
def cutReference (reference : String) : String × List Char :=
  let cs := reference.toList
  (String.ofList (cs.takeWhile (· ≠ '#')), (cs.dropWhile (· ≠ '#')).drop 1)

/-- Definitions in files may be nested so deep and no deeper. -/
def depthLimit : Nat := 485

/-- A value in which references can be looked for down to the last level. One that
was not read from a file has only to have a last level. -/
def bounded (folder : Option FileName) (v : Value) : Except ReferenceError Value :=
  if (if folder.isSome then v.isDeeper depthLimit else v.isEndless) then .error .tooDeep
  else .ok v

/-- What a reference names, and the context in which that is to be read. -/
def locate (t : FileTree) (c : Context) (reference : String) :
    Except ReferenceError (Context × Value) :=
  let (file, pointer) := cutReference reference
  if file = "" then do return (c, ← bounded c.folder (← Pointer.resolve c.root pointer))
  else match c.folder with
    | none => .error (.needsFile reference)
    | some folder =>
      let n := (folder.join (FileName.ofString file)).resolve t.home
      match readFile t n with
      | .error e => .error (.file e)
      | .ok root => do
        return (⟨root, some n.parent⟩, ← bounded (some n.parent) (← Pointer.resolve root pointer))

def referenceKey : Value := .str "$ref"

def referenceOf? (es : Entries) : Option String := (Entries.get? es referenceKey).bind Value.str?

/-- Lays the entries beside a reference over what it names; anything but a
mapping stands alone. -/
def overlay (target : Value) (beside : Except ReferenceError Entries) :
    Except ReferenceError Value :=
  match target with
  | .map es => do return .map (Entries.update es (← beside))
  | v => .ok v

mutual

/-- Every reference in the value replaced, given how one is followed. -/
def unfold (follow : String → Except ReferenceError Value) : Value → Except ReferenceError Value
  | .list xs => do return .list (← unfoldItems follow xs)
  | .map es =>
    match referenceOf? es with
    | some reference => do
      overlay (← follow reference) (unfoldFields follow true es)
    | none => do return .map (← unfoldFields follow false es)
  | v => .ok v

def unfoldItems (follow : String → Except ReferenceError Value) :
    List Value → Except ReferenceError (List Value)
  | [] => .ok []
  | x :: xs => do
    let y ← unfold follow x
    return y :: (← unfoldItems follow xs)

/-- With `beside` the reference itself is left out. -/
def unfoldFields (follow : String → Except ReferenceError Value) (beside : Bool) :
    List (Value × Value) → Except ReferenceError (List (Value × Value))
  | [] => .ok []
  | (k, v) :: es =>
    if beside && k.same referenceKey then unfoldFields follow beside es
    else do
      let w ← unfold follow v
      return (k, w) :: (← unfoldFields follow beside es)

end

/-- Unfolds with chains of at most `budget` further references; `chain` holds
those that led here. -/
def resolveWithin (t : FileTree) : Nat → Context → List String → Value → Except ReferenceError Value
  | 0, _, chain => unfold fun reference => .error (.circular (chain ++ [reference]))
  | budget + 1, c, chain => unfold fun reference =>
    if chain.contains reference then .error (.circular (chain ++ [reference]))
    else do
      let (there, target) ← locate t c reference
      resolveWithin t budget there (chain ++ [reference]) target

mutual

/-- The references in a value, as often as they occur. -/
def references : Value → List String
  | .list xs => referencesOfItems xs
  | .map es => (referenceOf? es).toList ++ referencesOfFields es
  | _ => []

def referencesOfItems : List Value → List String
  | [] => []
  | x :: xs => references x ++ referencesOfItems xs

def referencesOfFields : List (Value × Value) → List String
  | [] => []
  | (_, v) :: es => references v ++ referencesOfFields es

end

/-- The references in text that is read in a format. -/
def referencesIn (s : String) (format : Structured.Format) : List String :=
  match Structured.read format s with
  | .ok v => references v
  | .error _ => []

/-- The references in what stands at a place. A file is read in the format that its
last part asks for, but in JSON by a name that ends in `..`. -/
def referencesAt (place : Place) : FileTree.Node → List String
  | .folder => []
  | .file bytes =>
    match Encoding.decode .utf8 bytes with
    | .error _ => []
    | .ok s => [formatOf ⟨.root, place⟩, .json].flatMap
      (referencesIn (String.ofList (plainBreaks s.toList)))

/-- The references in all files. -/
def written (t : FileTree) : List String :=
  t.nodes.flatMap fun entry => referencesAt entry.1 entry.2

/-- No chain without repetition is longer: each reference is written out in the
definition or in some file. -/
def chainLimit (t : FileTree) (definition : Entries) : Nat :=
  (references (.map definition)).length + (written t).length

def resolveAll (t : FileTree) (definition : Entries) (folder : Option FileName) :
    Except ReferenceError Value := do
  resolveWithin t (chainLimit t definition) ⟨definition, folder⟩ []
    (← bounded folder (.map definition))

end Quire.Schema
