import Quire.Notes
import Quire.Schema.Reference
import Quire.Schema.Rule

/-! Schemas and what they declare. A property may mark the collection that
documents are gathered in, name the place its values are derived from, carry a
default for the aggregate, or ask for nested lists to be flattened. -/

namespace Quire

/-- A definition without references. It is a mapping unless the top of the
document was a reference to something else. -/
structure Schema where
  definition : Value
  source : Option FileName := none

/-- A declared derivation, unchecked. -/
structure DerivationSpec where
  source : Value
  target : String
  unique : Value

structure BaseProperty where
  path : String
  default : Option Value

namespace Schema

def Directive.collection : String := "x-frontmatter-part"
def Directive.derivedFrom : String := "x-derived-from"
def Directive.derivedUnique : String := "x-derived-unique"
def Directive.baseProperty : String := "x-base-property"
def Directive.defaultValue : String := "x-default-value"
def Directive.template : String := "x-template"
def Directive.flatten : String := "x-flatten-arrays"

def lift {α : Type} : Except ReferenceError α → Outcome α
  | .ok a => .ok a
  | .error e => .error e.toFailure

/-- A schema from a mapping that was read from a file or from none. -/
def ofEntries (t : FileTree) (definition : Entries) (source : Option FileName) : Outcome Schema := do
  return ⟨← lift (resolveAll t definition (source.map (·.parent))), source⟩

def noFiles : FileTree := ⟨[], []⟩

/-- Only a mapping is a schema. -/
def ofMapping (definition : Value) : Outcome Schema :=
  match definition with
  | .map es => ofEntries noFiles es none
  | _ => .error (.fault (.configuration "schema must be an object" none))

/-- A mapping, or pairs that make one; it is copied. -/
def ofValue (definition : Value) : Outcome Schema := do
  ofEntries noFiles (Value.copiedEntries (← definition.toEntries)) none

/-- A schema from a file; that the file was read is noted before its
references are looked at. -/
def attempt (t : FileTree) (n : FileName) : Attempt Schema :=
  match readFile t n with
  | .error e => .fail e.toFailure
  | .ok es => ⟨[⟨.debug, "Loaded schema " ++ n.text⟩], ofEntries t es (some n)⟩

def load (t : FileTree) (n : FileName) : Outcome Schema := (attempt t n).result

def dotted (path : List String) : String := ".".intercalate path

def isField (k : Value) (name : String) : Bool := k.same (.str name)

mutual

/-- The properties below an object schema, each with its path, parents first.
The items of arrays are not entered. -/
def properties (path : List String) : Value → List (List String × Entries)
  | .map es => propertiesFrom path es
  | _ => []

def propertiesFrom (path : List String) : List (Value × Value) → List (List String × Entries)
  | [] => []
  | (k, v) :: es => if isField k "properties" then declared path v else propertiesFrom path es

def declared (path : List String) : Value → List (List String × Entries)
  | .map props => declaredFrom path props
  | _ => []

def declaredFrom (path : List String) : List (Value × Value) → List (List String × Entries)
  | [] => []
  | (k, v) :: props =>
    (v.map?.map fun prop => (path ++ [k.plain], prop)).toList ++
      properties (path ++ [k.plain]) v ++ declaredFrom path props

end

def isTrue : Option Value → Bool
  | some (.bool true) => true
  | _ => false

def isCollection (prop : Entries) : Bool := isTrue (Entries.field? prop Directive.collection)

/-- The path of the first property that is marked as the collection. -/
def targetPath? (s : Schema) : Option (List String) :=
  ((properties [] s.definition).find? fun p => isCollection p.2).map (·.1)

def target? (s : Schema) : Option String := s.targetPath?.map dotted

/-- The target, unless it is blank, which counts as none. -/
def usableTarget? (s : Schema) : Option String := s.target?.filter (· ≠ "")

/-- Trouble over a definition that has no entries to ask for. -/
def noEntries (v : Value) : Mishap :=
  .noField ("'" ++ v.kindName ++ "' object has no attribute 'get'")

def entries (s : Schema) : Except Mishap Entries :=
  match s.definition with
  | .map es => .ok es
  | v => .error (noEntries v)

/-- The template as it reads, if one is declared. -/
def templatePath (s : Schema) : Except Mishap (Option String) := do
  match (Entries.field? (← s.entries) Directive.template).filter Value.truthy with
  | some v => if v.isWritable then return some v.plain else throw (.badValue Numeral.unwritable)
  | none => return none

/-- The schema of the property that a key leads to. -/
def property? (node : Value) (key : String) : Option Value :=
  match node with
  | .map es => match Entries.field? es "properties" with
    | some (.map props) => Entries.field? props key
    | _ => none
  | _ => none

def propertyAt (node : Value) : List Segment → Option Value
  | [] => some node
  | s :: rest => (property? node s.key).bind fun inner => propertyAt inner rest

/-- The schema of the property at a dot path, if it is a mapping. -/
def propertySchema (s : Schema) (path : String) : Except PathError (Option Entries) := do
  return (propertyAt s.definition (← Path.parse path)).bind Value.map?

/-- What the elements of the collection look like; empty when nothing is said. -/
def itemSchema (s : Schema) : Except PathError (Option Entries) :=
  match s.usableTarget? with
  | none => .ok none
  | some target => do
    let prop := (← s.propertySchema target).getD []
    return some (((Entries.field? prop "items").bind Value.map?).getD [])

def derivationOf (path : List String) (prop : Entries) : Option DerivationSpec :=
  (Entries.field? prop Directive.derivedFrom).map fun source =>
    ⟨source, dotted path, (Entries.field? prop Directive.derivedUnique).getD (.bool false)⟩

def derivations (s : Schema) : List DerivationSpec :=
  (properties [] s.definition).filterMap fun p => derivationOf p.1 p.2

/-- The default of a base property: a value of its own comes before the general
one. -/
def basePropertyOf (path : List String) (prop : Entries) : Option BaseProperty :=
  if ((Entries.field? prop Directive.baseProperty).any Value.truthy) then
    some ⟨dotted path,
      (Entries.field? prop Directive.defaultValue).or (Entries.field? prop "default")⟩
  else none

def baseProperties (s : Schema) : List BaseProperty :=
  (properties [] s.definition).filterMap fun p => basePropertyOf p.1 p.2

mutual

/-- The values under a key anywhere in the schema; what lies below one of them
is not searched. -/
def valuesUnder (name : String) : Value → List Value
  | .map es => valuesUnderFields name es
  | .list xs => valuesUnderItems name xs
  | _ => []

def valuesUnderFields (name : String) : List (Value × Value) → List Value
  | [] => []
  | (k, v) :: es =>
    (if isField k name then [v] else valuesUnder name v) ++ valuesUnderFields name es

def valuesUnderItems (name : String) : List Value → List Value
  | [] => []
  | x :: xs => valuesUnder name x ++ valuesUnderItems name xs

end

inductive FlattenError
  | notText (kind : String)
  | badPath (e : PathError)
  | expands (path : String)

def FlattenError.message : FlattenError → String
  | .notText kind => Directive.flatten ++ " expects a dot path string, got " ++ kind
  | .badPath e => "invalid " ++ Directive.flatten ++ " path: " ++ e.message
  | .expands path => Directive.flatten ++ " path cannot expand arrays: " ++ Text.quoted path

/-- A path to flatten must be a dot path without expansion. -/
def flattenPath (v : Value) : Except FlattenError String :=
  match v with
  | .str path =>
    match Path.parse path with
    | .error e => .error (.badPath e)
    | .ok segments =>
      if segments.any (·.expand) then .error (.expands path) else .ok (Text.strip path)
  | v => .error (.notText v.kindName)

/-- The paths to flatten, each once, in the order of the schema. -/
def flattenPaths (s : Schema) : Outcome (List String) :=
  match (valuesUnder Directive.flatten s.definition).mapM flattenPath with
  | .ok paths => .ok (paths.foldl (fun acc p => if acc.contains p then acc else acc ++ [p]) [])
  | .error e => .error (.fault (.configuration e.message none))

/-- Type names of a property: one text, or the text of each member. -/
def typeNames (prop : Entries) : List String :=
  match Entries.field? prop "type" with
  | some (.str s) => [s]
  | some (.list xs) => xs.map Value.plain
  | some (.tuple xs) => xs.map Value.plain
  | some (.bytes b) => b.map fun n => toString n.toNat
  | _ => []

def itemTypeOf (prop : Entries) : Option String :=
  ((Entries.field? prop "items").bind Value.map?).bind fun items =>
    (Entries.field? items "type").bind Value.str?

/-- Names of required properties must be able to serve as keys. -/
def requiredNames (es : Entries) : Except Mishap (List Value) :=
  match Entries.field? es "required" with
  | some (.list xs) =>
    match xs.find? fun x => !x.isFixed with
    | some x => .error (.badKind ("unhashable type: '" ++ x.kindName ++ "'"))
    | none => .ok xs
  | _ => .ok []

def ruleOf (path : List String) (required : Bool) (prop : Entries) : FieldRule :=
  { path := dotted path
    types := typeNames prop
    required
    default := Entries.field? prop "default"
    allowed := (Entries.field? prop "enum").bind Value.list?
    itemType := itemTypeOf prop }

/-- Derived properties and the collection are results; documents do not have
them. -/
def isResult (prop : Entries) : Bool :=
  Entries.has prop (.str Directive.derivedFrom) || isCollection prop

mutual

/-- The rules of an object schema: those of a property come right after its own. -/
def rulesOf (path : List String) : Value → Except Mishap (List FieldRule)
  | .map es => rulesFrom path (requiredNames es) es
  | v => .error (noEntries v)

def rulesFrom (path : List String) (required : Except Mishap (List Value)) :
    List (Value × Value) → Except Mishap (List FieldRule)
  | [] => .ok []
  | (k, v) :: es =>
    if isField k "properties" then rulesUnder path required v else rulesFrom path required es

def rulesUnder (path : List String) (required : Except Mishap (List Value)) :
    Value → Except Mishap (List FieldRule)
  | .map props => do rulesFor path (← required) props
  | _ => .ok []

def rulesFor (path : List String) (required : List Value) :
    List (Value × Value) → Except Mishap (List FieldRule)
  | [] => .ok []
  | (k, .map prop) :: props =>
    if isResult prop then rulesFor path required props
    else do
      let below ← rulesOf (path ++ [k.plain]) (.map prop)
      let others ← rulesFor path required props
      return ruleOf (path ++ [k.plain]) (k.among required) prop :: below ++ others
  | _ :: props => rulesFor path required props

end

/-- The rules for each document. With a collection they are those of its
elements, as every document becomes one. -/
def rules (s : Schema) : Outcome RuleSet :=
  match s.usableTarget? with
  | some target => do
    let items := (← s.itemSchema).getD []
    return ⟨← rulesOf [] (.map items), target ++ "[]"⟩
  | none => do return ⟨← rulesOf [] s.definition, "root"⟩

/-- The aggregate of no documents. -/
def emptyStructure (s : Schema) : Except PathError Entries :=
  match s.usableTarget? with
  | none => .ok []
  | some target => Path.set [] target (.list [])

end Schema
end Quire
