import Quire.Schema
import Quire.Value.Extent

/-! Derived fields: values found along one path, written at another. -/

namespace Quire

/-- Whether two values are alike: of one kind and equal. -/
def Value.alike (v w : Value) : Bool := v.kind = w.kind && v.same w

/-- Values as they came, no two of them alike. Those that may be keys are also entered with
their kinds, to be looked up. -/
structure Distinct where
  values : List Value := []
  keys : List (Value.Kind × Value) := []
  keys_eq : keys = (values.filter Value.isFixed).map fun v => (v.kind, v) := by rfl

namespace Distinct

/-- Whether a value is there already. One that may be a key is looked up among the keys, under
its kind; any other is compared with all values, whatever their kinds. -/
def holds (d : Distinct) (v : Value) : Bool :=
  if v.isFixed then d.keys.any fun key => key.1 = v.kind && key.2.same v
  else d.values.any fun w => w.same v

def insert (d : Distinct) (v : Value) : Distinct :=
  if d.holds v then d
  else
    { values := d.values ++ [v]
      keys := if v.isFixed then d.keys ++ [(v.kind, v)] else d.keys
      keys_eq := by by_cases fixed : v.isFixed <;> simp [fixed, d.keys_eq] }

def ofList (vs : List Value) : Distinct := vs.foldl insert {}

end Distinct

/-- The values without those that are alike to an earlier one. -/
def dedupe (vs : List Value) : List Value := (Distinct.ofList vs).values

/-- A checked derivation. -/
structure Derivation where
  source : String
  target : String
  unique : Bool

inductive DerivationError
  | badSource (v : Value)
  | badTarget (v : Value)
  | badPath (e : PathError)
  | expandsTarget (target : String)

def DerivationError.message : DerivationError → String
  | .badSource v => "derivation source path must be a non-empty string, got " ++ v.shown
  | .badTarget v => "derivation target must be a non-empty string, got " ++ v.shown
  | .badPath e => e.message
  | .expandsTarget target => "derivation target cannot expand arrays: " ++ Text.quoted target

namespace Derivation

def nonBlank (v : Value) : Option String := v.str?.filter fun s => !Text.isAllBlank s

/-- Both paths must be well formed, and the target must name one place. -/
def create (source target unique : Value) : Except DerivationError Derivation :=
  match nonBlank source, nonBlank target with
  | none, _ => .error (.badSource source)
  | _, none => .error (.badTarget target)
  | some from', some into =>
    match Path.parse from', Path.parse into with
    | .error e, _ => .error (.badPath e)
    | _, .error e => .error (.badPath e)
    | .ok _, .ok segments =>
      if segments.any (·.expand) then .error (.expandsTarget into)
      else .ok ⟨Text.strip from', Text.strip into, unique.truthy⟩

/-- What is kept of the values found. -/
def kept (d : Derivation) (found : List Value) : List Value :=
  if d.unique then dedupe found else found

/-- The values that the derivation finds and keeps. -/
def values (d : Derivation) (data : Entries) : Except PathError (List Value) := do
  return d.kept (← Path.collect (.map data) d.source)

def apply (d : Derivation) (data : Entries) : Except PathError Entries := do
  Path.set data d.target (.list (← d.values data))

end Derivation

/-- A derivation as it may be declared: any values may stand for its parts. -/
structure Declaration where
  source : Value
  target : Value
  unique : Value

namespace Declaration

/-- How notes and reports name a declaration. -/
def text (d : Declaration) : String := d.source.plain ++ " -> " ++ d.target.plain

/-- Whether a declaration has a text; a whole number that is too long has none. -/
def isWritable (d : Declaration) : Bool := d.source.isWritable && d.target.isWritable

def label (d : Declaration) : Except Mishap String :=
  if d.isWritable then .ok d.text else .error (.badValue Numeral.unwritable)

def check (d : Declaration) : Except DerivationError Derivation :=
  Derivation.create d.source d.target d.unique

/-- A declaration carried out: the data with the field written and the field's path. -/
def apply (d : Declaration) (data : Entries) : Except DerivationError (Entries × String) := do
  let rule ← d.check
  match rule.apply data with
  | .ok out => return (out, rule.target)
  | .error e => throw (.badPath e)

end Declaration

def DerivationSpec.declaration (s : DerivationSpec) : Declaration :=
  ⟨s.source, .str s.target, s.unique⟩

end Quire
