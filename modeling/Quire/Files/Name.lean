import Quire.Path

/-! Names of files. A name is relative or starts at the root; separators in a
row count as one, `.` is dropped and `..` is kept. -/

namespace Quire

inductive Anchor
  | relative
  | root
  | doubled
  deriving DecidableEq, Repr

def Anchor.text : Anchor → String
  | .relative => ""
  | .root => "/"
  | .doubled => "//"

structure FileName where
  anchor : Anchor
  parts : List String
  deriving DecidableEq, Repr

namespace FileName

/-- Two leading separators are an anchor of their own, three or more are one. -/
def anchorOf : List Char → Anchor
  | '/' :: '/' :: '/' :: _ => .root
  | '/' :: '/' :: _ => .doubled
  | '/' :: _ => .root
  | _ => .relative

/-- The stretches between separators, empty ones among them. -/
def pieces (s : String) : List String := (splitChars '/' s.toList).map String.ofList

def isPart (s : String) : Bool := s ≠ "" && s ≠ "."

def ofString (s : String) : FileName := ⟨anchorOf s.toList, (pieces s).filter isPart⟩

/-- A name must be given as text. -/
def ofValue : Value → Except Mishap FileName
  | .str s => .ok (ofString s)
  | .bytes _ => .error (.badKind ("argument should be a str object or an os.PathLike object "
      ++ "returning str, not <class 'bytes'>"))
  | v => .error (.badKind ("expected str, bytes or os.PathLike object, not " ++ v.kindName))

/-- The written form; the empty relative name is a single dot. -/
def text (n : FileName) : String :=
  if n.anchor = .relative ∧ n.parts = [] then "."
  else n.anchor.text ++ "/".intercalate n.parts

def isAbsolute (n : FileName) : Bool := n.anchor ≠ .relative

def last (n : FileName) : String := n.parts.getLast?.getD ""

/-- The name without its last part; a name without parts is its own parent. -/
def parent (n : FileName) : FileName := ⟨n.anchor, n.parts.dropLast⟩

/-- A name below another; an absolute one stands for itself. -/
def join (base n : FileName) : FileName :=
  if n.isAbsolute then n else ⟨base.anchor, base.parts ++ n.parts⟩

/-- The ending from the last dot on; a dot at either end of the last part starts
none. -/
def suffix (n : FileName) : String :=
  let cs := n.last.toList
  let ending := (cs.reverse.takeWhile (· ≠ '.')).reverse
  let before := cs.length - ending.length
  if 1 < before ∧ ending ≠ [] then String.ofList ('.' :: ending) else ""

/-- Every part on the way, the anchor first if there is one. -/
def steps (n : FileName) : List String :=
  if n.isAbsolute then n.anchor.text :: n.parts else n.parts

/-- `..` takes one part back. -/
def settle (home : List String) : List String → List String
  | [] => home
  | part :: rest => settle (if part = ".." then home.dropLast else home ++ [part]) rest

/-- The absolute name without `..`, from the folder at hand. -/
def resolve (home : List String) (n : FileName) : FileName :=
  ⟨.root, settle (if n.isAbsolute then [] else home) n.parts⟩

theorem join_absolute (base n : FileName) (h : n.isAbsolute = true) : base.join n = n := by
  simp [join, h]

theorem settle_append (home xs ys : List String) :
    settle home (xs ++ ys) = settle (settle home xs) ys := by
  induction xs generalizing home with
  | nil => rfl
  | cons x xs ih => simp [settle, ih]

end FileName
end Quire
