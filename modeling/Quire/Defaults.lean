import Quire.Notes
import Quire.Schema

/-! Base properties: fields of the aggregate that get their default when they
are absent. -/

namespace Quire.Defaults

/-- A base property with the value it gets. -/
structure Rule where
  path : String
  value : Value

def missing (declared : List BaseProperty) : List String :=
  (declared.filter fun b => b.default.isNone).map (·.path)

def noDefault (paths : List String) : Fault :=
  { kind := .configuration
    message := "base property without a default value: " ++ ", ".intercalate paths
    details := [("fields", .list (paths.map .str))] }

def ruleOf? (b : BaseProperty) : Option Rule := b.default.map fun value => ⟨b.path, value⟩

/-- Every base property must have a default. -/
def rules (declared : List BaseProperty) : Except Fault (List Rule) :=
  if (missing declared).isEmpty then .ok (declared.filterMap ruleOf?)
  else .error (noDefault (missing declared))

/-- Fills one field, if it is absent; whether it was is told. -/
def fill (data : Entries) (r : Rule) : Except PathError (Entries × Bool) := do
  if ← Path.has (.map data) r.path then return (data, false)
  return (← Path.set data r.path r.value.copied, true)

def populateWith (data : Entries) : List Rule → Attempt Entries
  | [] => pure data
  | r :: rest =>
    match fill data r with
    | .error e => .fail (.mishap e.toMishap)
    | .ok (out, false) => populateWith out rest
    | .ok (out, true) => do
      Attempt.note .debug ("Set base property " ++ r.path ++ " to its default")
      populateWith out rest

def populate (s : Schema) (data : Entries) : Attempt Entries := do
  let rs ← (rules s.baseProperties : Except Fault _)
  populateWith data rs

end Quire.Defaults
