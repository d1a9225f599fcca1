import Quire.Json.Writer
import Quire.Yaml.Writer

/-! The written form of an aggregate: YAML when asked for, JSON otherwise. -/

namespace Quire

def serialize (v : Value) (format : String) : Except Mishap String :=
  if format = "yaml" then
    match Yaml.obstacle? v with
    | some m => .error m
    | none => .ok (Yaml.write v)
  else do return (← Json.write .document v) ++ "\n"

theorem serialize_yaml (v : Value) (h : Yaml.obstacle? v = none) :
    serialize v "yaml" = .ok (Yaml.write v) := by
  simp [serialize, h]

end Quire
