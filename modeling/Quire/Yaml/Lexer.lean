import Quire.Yaml.ScalarText

/-! Cutting a text into tokens. Indentation opens and closes blocks; a key that
is only known as one when its colon is met gets its mark put in front of it
afterwards. -/

namespace Quire.Yaml

/-- A place where a key may have started: the token it would stand before. -/
structure Candidate where
  token : Nat
  required : Bool
  line : Nat
  column : Nat
  index : Nat

structure Lexer where
  cursor : Cursor
  tokens : Array Token := #[]
  /-- Depth of brackets; indentation counts only outside all of them. -/
  depth : Nat := 0
  /-- Columns of the open blocks, innermost first. -/
  indents : List Nat := []
  keyAllowed : Bool := true
  candidates : List (Nat × Candidate) := []
  done : Bool := false

namespace Lexer

def ofText (cs : List Char) : Lexer := { cursor := .ofText cs }

def inFlow (l : Lexer) : Bool := 0 < l.depth

def emit (l : Lexer) (t : Token) : Lexer := { l with tokens := l.tokens.push t }

def insertAt (l : Lexer) (i : Nat) (t : Token) : Lexer :=
  { l with tokens := l.tokens.insertIdxIfInBounds i t }

/-- The least column of text inside the innermost block. -/
def innerColumn (l : Lexer) : Nat :=
  match l.indents with
  | [] => 0
  | n :: _ => n + 1

/-- A candidate ends with its line, or after 1024 characters. -/
def isStale (l : Lexer) (k : Candidate) : Bool :=
  k.line != l.cursor.line || 1024 < l.cursor.index - k.index

def dropStale (l : Lexer) : Scan Lexer :=
  if l.candidates.any fun k => l.isStale k.2 && k.2.required then refuse
  else .ok { l with candidates := l.candidates.filter fun k => !l.isStale k.2 }

def candidate? (l : Lexer) : Option Candidate :=
  (l.candidates.find? (·.1 = l.depth)).map (·.2)

def forget (l : Lexer) : Lexer :=
  { l with candidates := l.candidates.filter (·.1 != l.depth) }

/-- Gives up the candidate of this depth, which must not be a required key. -/
def dropCandidate (l : Lexer) : Scan Lexer :=
  if l.candidate?.any (·.required) then refuse else .ok l.forget

def saveCandidate (l : Lexer) : Scan Lexer :=
  if !l.keyAllowed then .ok l
  else do
    let required := !l.inFlow && l.indents.head? = some l.cursor.column
    let l ← l.dropCandidate
    let k : Candidate := { token := l.tokens.size, required, line := l.cursor.line
                           column := l.cursor.column, index := l.cursor.index }
    return { l with candidates := (l.depth, k) :: l.candidates }

def closeBlocks (l : Lexer) (keeps : Nat → Bool) : List Nat → Lexer
  | [] => { l with indents := [] }
  | n :: rest =>
    if keeps n then { l with indents := n :: rest }
    else closeBlocks (l.emit .blockEnd) keeps rest

/-- Closes the blocks that are indented beyond the column. -/
def unwindTo (l : Lexer) (column : Nat) : Lexer :=
  if l.inFlow then l else l.closeBlocks (· ≤ column) l.indents

def unwindAll (l : Lexer) : Lexer :=
  if l.inFlow then l else l.closeBlocks (fun _ => false) l.indents

/-- Whether a block at the column is a new, inner one. -/
def opensAt (l : Lexer) (column : Nat) : Bool :=
  match l.indents with
  | [] => true
  | n :: _ => n < column

def open_ (l : Lexer) (column : Nat) : Lexer := { l with indents := column :: l.indents }

def skip (l : Lexer) (n : Nat) : Lexer := { l with cursor := l.cursor.skip n }

/-- Spaces, comments and line breaks before the next token. -/
def toNext (steps : Nat) (l : Lexer) : Lexer :=
  match steps with
  | 0 => l
  | steps + 1 =>
    let c := l.cursor.skipSpaces.skipComment
    match c.lineBreak? with
    | some (_, c) => toNext steps { l with cursor := c, keyAllowed := l.keyAllowed || !l.inFlow }
    | none => { l with cursor := c }

def atStart (l : Lexer) : Lexer :=
  if l.cursor.index = 0 ∧ l.cursor.peek = some '\ufeff' then l.skip 1 else l

def endStream (l : Lexer) : Scan Lexer := do
  let l ← l.unwindAll.dropCandidate
  return { (l.emit .streamEnd) with keyAllowed := false, candidates := [], done := true }

def documentMark (l : Lexer) (t : Token) : Scan Lexer := do
  let l ← l.unwindAll.dropCandidate
  return { (l.skip 3).emit t with keyAllowed := false }

def isUriChar (c : Char) : Bool := isNameChar c || ";/?:@&=+$,.!~*'()[]%".toList.contains c

/-- Bytes written as percent escapes. -/
def percentBytes : List Char → Option (List UInt8 × List Char)
  | '%' :: a :: b :: rest => do
    let n := Numeral.ofDigits 16 [← Numeral.hexValue? a, ← Numeral.hexValue? b]
    let (more, rest) ← percentBytes rest
    return (UInt8.ofNat n :: more, rest)
  | '%' :: _ => none
  | rest => some ([], rest)

/-- The text of a tag: plain characters and escaped bytes. -/
def uriText (steps : Nat) (c : Cursor) (acc : List Char) : Scan (List Char × Cursor) :=
  match steps with
  | 0 => refuse
  | steps + 1 =>
    match c.rest with
    | '%' :: _ =>
      match percentBytes c.rest with
      | none => refuse
      | some (bytes, _) =>
        match String.fromUTF8? (ByteArray.mk bytes.toArray) with
        | none => refuse
        | some s => uriText steps (c.skip (3 * bytes.length)) (s.toList.reverse ++ acc)
    | d :: _ => if isUriChar d then uriText steps (c.skip 1) (d :: acc) else .ok (acc.reverse, c)
    | [] => .ok (acc.reverse, c)

def scanUri (c : Cursor) : Scan (String × Cursor) := do
  let (text, next) ← uriText (c.rest.length + 1) c []
  if text.isEmpty then refuse else return (String.ofList text, next)

/-- `!`, `!!` or `!name!`. -/
def scanHandle (c : Cursor) : Scan (String × Cursor) :=
  match c.rest with
  | '!' :: ' ' :: _ => .ok ("!", c.skip 1)
  | '!' :: rest =>
    let name := rest.takeWhile isNameChar
    if (rest.drop name.length).head? = some '!' then
      .ok (String.ofList ('!' :: name ++ ['!']), c.skip (name.length + 2))
    else refuse
  | _ => refuse

def scanDigits (c : Cursor) : Scan (Nat × Cursor) :=
  let (ds, next) := c.takeWhile Char.isDigit
  if ds.isEmpty then refuse else .ok (Numeral.decimal ds, next)

def scanDirective (c : Cursor) : Scan (Directive × Cursor) := do
  let (name, c) := (c.skip 1).takeWhile isNameChar
  if name.isEmpty ∨ !isSpaceBreakOrEnd c.peek then refuse
  else if name = "YAML".toList then
    let (major, c) ← scanDigits c.skipSpaces
    if c.peek ≠ some '.' then refuse
    else
      let (_, c) ← scanDigits (c.skip 1)
      if isSpaceBreakOrEnd c.peek then return (.version major, ← restOfLine c) else refuse
  else if name = "TAG".toList then
    let (handle, c) ← scanHandle c.skipSpaces
    if c.peek ≠ some ' ' then refuse
    else
      let (expansion, c) ← scanUri c.skipSpaces
      if isSpaceBreakOrEnd c.peek then return (.tagHandle handle expansion, ← restOfLine c)
      else refuse
  else return (.other, ← restOfLine (c.skipWhile (!isBreak ·)))

def directive (l : Lexer) : Scan Lexer := do
  let l ← l.unwindAll.dropCandidate
  let (d, c) ← scanDirective l.cursor
  return { (l.emit (.directive d)) with cursor := c, keyAllowed := false }

def flowStart (l : Lexer) (t : Token) : Scan Lexer := do
  let l ← l.saveCandidate
  return { (l.skip 1).emit t with depth := l.depth + 1, keyAllowed := true }

/-- A closing bracket; beyond the outermost one the depth is not kept. -/
def flowEnd (l : Lexer) (t : Token) : Scan Lexer := do
  let l ← l.dropCandidate
  return { (l.skip 1).emit t with depth := l.depth - 1, keyAllowed := false }

def flowEntry (l : Lexer) : Scan Lexer := do
  let l ← dropCandidate { l with keyAllowed := true }
  return (l.skip 1).emit .flowEntry

def openFor (l : Lexer) (t : Token) : Scan Lexer :=
  if l.inFlow then .ok l
  else if !l.keyAllowed then refuse
  else if l.opensAt l.cursor.column then .ok ((l.open_ l.cursor.column).emit t)
  else .ok l

def blockEntry (l : Lexer) : Scan Lexer := do
  let l ← l.openFor .blockSequenceStart
  let l ← dropCandidate { l with keyAllowed := true }
  return (l.skip 1).emit .blockEntry

def explicitKey (l : Lexer) : Scan Lexer := do
  let l ← l.openFor .blockMappingStart
  let l ← dropCandidate { l with keyAllowed := !l.inFlow }
  return (l.skip 1).emit .key

/-- The colon of a value. A candidate becomes a key; if it is the first of its
block the block opens in front of it. -/
def value (l : Lexer) : Scan Lexer := do
  match l.candidate? with
  | some k =>
    let l := l.forget.insertAt k.token .key
    let l := if !l.inFlow && l.opensAt k.column
      then (l.open_ k.column).insertAt k.token .blockMappingStart else l
    return { (l.skip 1).emit .value with keyAllowed := false }
  | none =>
    let l ← l.openFor .blockMappingStart
    let l ← dropCandidate { l with keyAllowed := !l.inFlow }
    return (l.skip 1).emit .value

def isAfterName : Option Char → Bool :=
  endOr fun c => isSpaceOrTab c || isBreak c || "?:,]\x7d%@`".toList.contains c

def named (l : Lexer) (make : String → Token) : Scan Lexer := do
  let l ← l.saveCandidate
  let (name, c) := (l.cursor.skip 1).takeWhile isNameChar
  if name.isEmpty ∨ !isAfterName c.peek then refuse
  else return { (l.emit (make (String.ofList name))) with cursor := c, keyAllowed := false }

/-- Whether a tag starts with a handle: a second `!` before the next gap. -/
def hasHandle (cs : List Char) : Bool :=
  (cs.takeWhile fun c => !(c = ' ' || isBreak c)).contains '!'

def scanTag (c : Cursor) : Scan (Token × Cursor) := do
  let (t, c) ← (match (c.rest.drop 1).head? with
    | some '<' => do
      let (suffix, c) ← scanUri (c.skip 2)
      if c.peek = some '>' then return (Token.tag none suffix, c.skip 1) else refuse
    | next =>
      if isBlankOrEnd next then return (Token.tag none "!", c.skip 1)
      else if hasHandle (c.rest.drop 1) then do
        let (handle, c) ← scanHandle c
        let (suffix, c) ← scanUri c
        return (Token.tag (some handle) suffix, c)
      else do
        let (suffix, c) ← scanUri (c.skip 1)
        return (Token.tag (some "!") suffix, c) : Scan (Token × Cursor))
  if isSpaceBreakOrEnd c.peek then return (t, c) else refuse

def tag (l : Lexer) : Scan Lexer := do
  let l ← l.saveCandidate
  let (t, c) ← scanTag l.cursor
  return { (l.emit t) with cursor := c, keyAllowed := false }

def block (l : Lexer) (folded : Bool) : Scan Lexer := do
  let l ← dropCandidate { l with keyAllowed := true }
  let (t, c) ← scanBlock folded (max 1 l.innerColumn) l.cursor
  return { (l.emit t) with cursor := c }

def quoted (l : Lexer) (double : Bool) : Scan Lexer := do
  let l ← l.saveCandidate
  let (t, c) ← scanQuoted double l.cursor
  return { (l.emit t) with cursor := c, keyAllowed := false }

def plain (l : Lexer) : Scan Lexer := do
  let l ← l.saveCandidate
  let (t, broken, c) := scanPlain l.inFlow l.innerColumn l.cursor
  return { (l.emit t) with cursor := c, keyAllowed := broken }

def isIndicator (c : Char) : Bool := "-?:,[]\x7b\x7d#&*!|>'\"%@`".toList.contains c

/-- A plain scalar may start with a dash, and outside brackets with a question
mark or colon, when no blank follows. -/
def startsPlain (l : Lexer) (c : Char) (next : Option Char) : Bool :=
  !(isSpaceOrTab c || isBreak c || isIndicator c)
    || (!isBlankOrEnd next && (c = '-' || (!l.inFlow && (c = '?' || c = ':'))))

def fetch (l : Lexer) : Scan Lexer :=
  match l.cursor.rest with
  | [] => l.endStream
  | c :: rest =>
    let atMargin := l.cursor.column = 0
    let marks := isBlankOrEnd rest.head?
    if c = '%' ∧ atMargin then l.directive
    else if c = '-' ∧ atMargin ∧ l.cursor.atSeparator then l.documentMark .documentStart
    else if c = '.' ∧ atMargin ∧ l.cursor.atSeparator then l.documentMark .documentEnd
    else if c = '[' then l.flowStart .flowSequenceStart
    else if c = '\x7b' then l.flowStart .flowMappingStart
    else if c = ']' then l.flowEnd .flowSequenceEnd
    else if c = '\x7d' then l.flowEnd .flowMappingEnd
    else if c = ',' then l.flowEntry
    else if c = '-' ∧ marks then l.blockEntry
    else if c = '?' ∧ (l.inFlow ∨ marks) then l.explicitKey
    else if c = ':' ∧ (l.inFlow ∨ marks) then l.value
    else if c = '*' then l.named .alias
    else if c = '&' then l.named .anchor
    else if c = '!' then l.tag
    else if c = '|' ∧ !l.inFlow then l.block false
    else if c = '>' ∧ !l.inFlow then l.block true
    else if c = '\'' then l.quoted false
    else if c = '"' then l.quoted true
    else if l.startsPlain c rest.head? then l.plain
    else refuse

/-- One more token, or several where blocks close. -/
def step (l : Lexer) : Scan Lexer := do
  let l ← (l.toNext (l.cursor.rest.length + 1)).dropStale
  fetch (l.unwindTo l.cursor.column)

/-- The tokens that no later colon can put a mark before. -/
def settled (l : Lexer) : Array Token :=
  let open_ := (l.candidates.filter fun k => !l.isStale k.2).map (·.2.token)
  l.tokens.extract 0 (open_.foldl min l.tokens.size)

/-- All tokens up to the end, or those that are settled before the first trouble. -/
def run (steps : Nat) (l : Lexer) : Array Token × Option Trouble :=
  match steps with
  | 0 => (l.settled, some .malformed)
  | steps + 1 =>
    if l.done then (l.tokens, none)
    else match l.step with
      | .ok next => run steps next
      | .error e => (l.settled, some e)

end Lexer

/-- The tokens of a text, and the trouble that ends them early if there is one. -/
def Token.scan (cs : List Char) : Array Token × Option Trouble :=
  (Lexer.ofText cs).atStart.run (cs.length + 3)

end Quire.Yaml
