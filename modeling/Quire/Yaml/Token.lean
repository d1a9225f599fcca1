import Quire.Yaml.Cursor

/-! The pieces a YAML text is cut into: marks of structure, properties of nodes
and scalars with their text already unfolded. -/

namespace Quire.Yaml

inductive Directive
  | version (major : Nat)
  | tagHandle (handle expansion : String)
  | other
  deriving DecidableEq, Repr

inductive Token
  | directive (d : Directive)
  | documentStart
  | documentEnd
  | streamEnd
  | blockSequenceStart
  | blockMappingStart
  | blockEnd
  | flowSequenceStart
  | flowSequenceEnd
  | flowMappingStart
  | flowMappingEnd
  | blockEntry
  | flowEntry
  | key
  | value
  | alias (name : String)
  | anchor (name : String)
  | tag (handle : Option String) (suffix : String)
  | scalar (text : String) (isPlain : Bool)
  deriving DecidableEq, Repr

abbrev Scan (α : Type) := Except Trouble α

def refuse {α : Type} : Scan α := .error .malformed

end Quire.Yaml
