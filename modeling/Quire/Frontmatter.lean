import Quire.Failure
import Quire.Json.Reader
import Quire.Toml.Reader
import Quire.Value.Extent
import Quire.Yaml.Reader

/-! Documents that open with a metadata block: YAML between lines of three
dashes, TOML between lines of three plus signs. The block ends at the first
line that is a fence of the same kind. -/

namespace Quire

/-- The two kinds of fence. -/
inductive Fence
  | dashes
  | pluses
  deriving DecidableEq, Repr

namespace Fence

def mark : Fence → List Char
  | .dashes => ['-', '-', '-']
  | .pluses => ['+', '+', '+']

def format : Fence → String
  | .dashes => "yaml"
  | .pluses => "toml"

end Fence

namespace Frontmatter

def isBlank (c : Char) : Bool := c = ' ' || c = '\t'

/-- The text after a line break, if the text starts with one. -/
def afterBreak : List Char → Option (List Char)
  | '\n' :: rest => some rest
  | '\r' :: '\n' :: rest => some rest
  | _ => none

/-- A fence at the very start, with only blanks behind it on its line. -/
def opening : List Char → Option (Fence × List Char)
  | '-' :: '-' :: '-' :: rest => (afterBreak (rest.dropWhile isBlank)).map (.dashes, ·)
  | '+' :: '+' :: '+' :: rest => (afterBreak (rest.dropWhile isBlank)).map (.pluses, ·)
  | _ => none

/-- The text after a closing line that starts here; the line may be the last. -/
def closing (fence : Fence) (cs : List Char) : Option (List Char) :=
  if fence.mark.isPrefixOf cs then
    match (cs.drop fence.mark.length).dropWhile isBlank with
    | [] => some []
    | rest => afterBreak rest
  else none

/-- The text of a document, of which only text has any. -/
def contentOf : Value → Except Mishap String
  | .str s => .ok s
  | .bytes _ => .error (.badKind "startswith first arg must be bytes or a tuple of bytes, not str")
  | v => .error (.noField ("'" ++ v.kindName ++ "' object has no attribute 'startswith'"))

/-- Cuts at the first closing line. `acc` holds what came before, latest first. -/
def cut (fence : Fence) (atLineStart : Bool) (acc : List Char) :
    List Char → Option (List Char × List Char)
  | [] => none
  | c :: rest =>
    match if atLineStart then closing fence (c :: rest) else none with
    | some body => some (acc.reverse, body)
    | none => cut fence (c = '\n') (c :: acc) rest

structure Parts where
  fence : Fence
  block : List Char
  body : List Char

def withoutMark : List Char → List Char
  | '\ufeff' :: rest => rest
  | cs => cs

/-- Block and body, when the text opens with a block that is closed. -/
def split (content : List Char) : Option Parts := do
  let (fence, rest) ← opening (withoutMark content)
  let (block, body) ← cut fence true [] rest
  return ⟨fence, block, body⟩

end Frontmatter

/-- What a document yields: its metadata, the text after it, and the format of
the block or `none`. -/
structure Extracted where
  metadata : Entries
  body : String
  format : String

inductive ExtractionError
  | noBlock
  | badToml (e : Toml.Trouble)
  | badYaml (e : Yaml.ReadError)
  | notMapping (kind : String)

def ExtractionError.message : ExtractionError → String
  | .noBlock => "no metadata block found"
  | .badToml e => "invalid TOML metadata: " ++ e.message
  | .badYaml e => "invalid YAML metadata: " ++ e.message
  | .notMapping kind => "metadata block must be a mapping, got " ++ kind

def ExtractionError.toFault (e : ExtractionError) (path : Option String) : Fault :=
  { kind := .extraction, message := e.message, path }

namespace Frontmatter

/-- Every key becomes text; of keys with one text the later value wins. -/
def textKeys (es : Entries) : Except Mishap Entries :=
  if (Entries.keys es).all Value.isWritable then
    .ok (Entries.ofList (es.map fun e => (e.1.toText, e.2)))
  else .error (.badValue Numeral.unwritable)

/-- A scalar with a form but no value is let through as it is; bad form is an
error of extraction. -/
def parse (fence : Fence) (block : List Char) (path : Option String) : Outcome Value :=
  match fence with
  | .pluses =>
    match Toml.read (String.ofList block) with
    | .ok es => .ok (.map es)
    | .error e => .error (match e.mishap? with
      | some m => .mishap m
      | none => .fault ((ExtractionError.badToml e).toFault path))
  | .dashes =>
    match Yaml.read (String.ofList block) with
    | .ok v => .ok v
    | .error (.mishap m) => .error (.mishap m)
    | .error e => .error (.fault ((ExtractionError.badYaml e).toFault path))

def extract (requireBlock : Bool) (content : String) (path : Option String) : Outcome Extracted :=
  match split content.toList with
  | none =>
    if requireBlock then .error (.fault (ExtractionError.noBlock.toFault path))
    else .ok ⟨[], content, "none"⟩
  | some parts => do
    match ← parse parts.fence parts.block path with
    | .null => return ⟨[], String.ofList parts.body, parts.fence.format⟩
    | .map es => return ⟨← textKeys es, String.ofList parts.body, parts.fence.format⟩
    | v => throw (.fault ((ExtractionError.notMapping v.kindName).toFault path))

end Frontmatter
end Quire
