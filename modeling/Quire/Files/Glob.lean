import Quire.Files.Tree

/-! Patterns of file names. Within one part `*` stands for any text, `?` for one
character and brackets for a set of characters; a part `**` stands for any
number of folders. Hidden names start with a dot and are passed over by a
pattern that does not. -/

namespace Quire.Glob

inductive Token
  | char (c : Char)
  | any
  | star
  | set (negated : Bool) (ranges : List (Char × Char))
  deriving DecidableEq, Repr

/-- Ranges between brackets; a hyphen at either end is itself. A range whose
ends are out of order holds nothing. -/
def rangesOf : List Char → List (Char × Char)
  | lo :: '-' :: hi :: rest => (lo, hi) :: rangesOf rest
  | c :: rest => (c, c) :: rangesOf rest
  | [] => []

/-- The text up to the closing bracket and what follows it; the first character
does not close. -/
def bracketed : List Char → Option (List Char × List Char)
  | [] => none
  | c :: rest =>
    let inner := rest.takeWhile (· ≠ ']')
    match rest.dropWhile (· ≠ ']') with
    | _ :: after => some (c :: inner, after)
    | [] => none

def setOf (cs : List Char) : Option (Token × List Char) :=
  match cs with
  | '!' :: rest => (bracketed rest).map fun (inner, after) => (.set true (rangesOf inner), after)
  | _ => (bracketed cs).map fun (inner, after) => (.set false (rangesOf inner), after)

theorem length_bracketed {cs inner after : List Char} (h : bracketed cs = some (inner, after)) :
    after.length < cs.length := by
  cases cs with
  | nil => simp [bracketed] at h
  | cons c rest =>
    simp only [bracketed] at h
    split at h
    · rename_i d found hd
      have : (rest.dropWhile (· ≠ ']')).length ≤ rest.length :=
        (List.dropWhile_suffix _).length_le
      rw [hd] at this
      simp only [Option.some.injEq, Prod.mk.injEq] at h
      obtain ⟨_, rfl⟩ := h
      simp only [List.length_cons] at this ⊢
      omega
    · simp at h

theorem length_setOf {cs after : List Char} {t : Token} (h : setOf cs = some (t, after)) :
    after.length < cs.length := by
  unfold setOf at h
  split at h
  · rename_i rest
    obtain ⟨⟨inner, found⟩, hb, he⟩ := Option.map_eq_some_iff.1 h
    have := length_bracketed hb
    simp only [Prod.mk.injEq] at he
    obtain ⟨_, rfl⟩ := he
    simp only [List.length_cons]
    omega
  · obtain ⟨⟨inner, found⟩, hb, he⟩ := Option.map_eq_some_iff.1 h
    have := length_bracketed hb
    simp only [Prod.mk.injEq] at he
    obtain ⟨_, rfl⟩ := he
    exact this

/-- A bracket that is never closed is itself. -/
def tokens (cs : List Char) : List Token :=
  match cs with
  | [] => []
  | '*' :: rest => .star :: tokens rest
  | '?' :: rest => .any :: tokens rest
  | '[' :: rest =>
    match h : setOf rest with
    | some (t, after) =>
      have := length_setOf h
      t :: tokens after
    | none => .char '[' :: tokens rest
  | c :: rest => .char c :: tokens rest
termination_by cs.length

def inRanges (c : Char) (ranges : List (Char × Char)) : Bool :=
  ranges.any fun (lo, hi) => lo ≤ c && c ≤ hi

def Token.accepts (c : Char) : Token → Bool
  | .char d => c = d
  | .any => true
  | .star => true
  | .set negated ranges => inRanges c ranges != negated

/-- Whether the tokens cover the text from end to end. -/
def covers : List Token → List Char → Bool
  | [], cs => cs.isEmpty
  | .star :: ts, [] => covers ts []
  | .star :: ts, c :: cs => covers ts (c :: cs) || covers (.star :: ts) cs
  | t :: ts, c :: cs => t.accepts c && covers ts cs
  | _ :: _, [] => false
termination_by ts cs => (ts.length, cs.length)

def isHidden (name : String) : Bool := name.toList.head? = some '.'

/-- Text with a sign in it that makes it a pattern. -/
def isWild (s : String) : Bool := s.toList.any fun c => c = '*' || c = '?' || c = '['

/-- What one part of a pattern asks for. -/
inductive Part
  | literal (name : String)
  | wild (pattern : String)
  | anyDepth
  deriving DecidableEq, Repr

def Part.ofString (s : String) : Part :=
  if s = "**" then .anyDepth else if isWild s then .wild s else .literal s

/-- A path extended by a name; an empty name leaves a separator at the end. -/
def extend (folder name : String) : String :=
  if folder = "" then name
  else if folder.toList.getLast? = some '/' then folder ++ name
  else folder ++ "/" ++ name

/-- The names in a folder; there are none where no folder is. -/
def namesIn (t : FileTree) (folder : String) : List (String × FileTree.Node) :=
  match if folder = "" then .ok t.home else t.locateText folder with
  | .ok place => if t.isFolder place then t.children place else []
  | .error _ => []

/-- Every name below a folder, as paths from it, down to the given depth. -/
def below (t : FileTree) (hidden foldersOnly : Bool) (folder : String) : Nat → List String
  | 0 => []
  | depth + 1 => (namesIn t folder).flatMap fun (name, node) =>
    if foldersOnly && node ≠ .folder then []
    else if !hidden && isHidden name then []
    else name :: (below t hidden foldersOnly (extend folder name) depth).map (extend name)

/-- No path is deeper than the tree has entries. -/
def depth (t : FileTree) : Nat := t.nodes.length

/-- What a part adds to a folder. -/
def choices (t : FileTree) (hidden foldersOnly : Bool) (folder : String) : Part → List String
  | .literal "" => if t.isFolderText folder then [""] else []
  | .literal name => if t.existsText (extend folder name) then [name] else []
  | .wild pattern =>
    ((namesIn t folder).filter fun (name, node) =>
      (!foldersOnly || node = .folder) && (hidden || isHidden pattern || !isHidden name) &&
        covers (tokens pattern.toList) name.toList).map (·.1)
  | .anyDepth =>
    (if folder = "" || t.isFolderText folder then [""] else []) ++
      below t hidden foldersOnly folder (depth t)

/-- Extends the folders part by part; only the last part may name files. -/
def expandFrom (t : FileTree) (hidden : Bool) (folders : List String) : List Part → List String
  | [] => folders
  | part :: rest =>
    expandFrom t hidden
      (folders.flatMap fun f => (choices t hidden (!rest.isEmpty) f part).map (extend f)) rest

/-- The parts before the first wild one, as text. -/
def literalStart (parts : List String) : String := "/".intercalate (parts.takeWhile (!isWild ·))

/-- All paths that match a pattern, in the order of the tree. A folder whose name
cannot be given to the file system is an error when it has to be listed. -/
def expand (t : FileTree) (hidden : Bool) (pattern : String) : Except Mishap (List String) :=
  if !isWild pattern then
    .ok (if t.existsText pattern then [pattern] else [])
  else
    let pieces := FileName.pieces pattern
    if (literalStart pieces).toList.contains '\x00' then .error (.badValue "embedded null byte")
    else
      let anchor := (FileName.anchorOf pattern.toList).text
      let inner := pieces.filter (· ≠ "")
      let parts := inner ++ if pieces.getLast? = some "" then [""] else []
      .ok (expandFrom t hidden [anchor] (parts.map Part.ofString))

end Quire.Glob
