import Quire.Json.Reader
import Quire.Yaml.Reader

/-! Text that holds a value, in JSON or YAML. Text of bad form and scalars
without a value are one kind of trouble; other mishaps pass through. -/

namespace Quire.Structured

inductive Format
  | json
  | yaml
  deriving DecidableEq, Repr

inductive Trouble
  | unreadable (message : String)
  | other (m : Mishap)

def ofMishap (m : Mishap) : Trouble := if m.kind.isValue then .unreadable m.text else .other m

def read (format : Format) (s : String) : Except Trouble Value :=
  match format with
  | .json =>
    match Json.read s with
    | .ok v => .ok v
    | .error e => .error ((e.mishap?.map .other).getD (.unreadable e.message))
  | .yaml =>
    match Yaml.read s with
    | .ok v => .ok v
    | .error (.mishap m) => .error (ofMishap m)
    | .error .malformed => .error (.unreadable Yaml.ReadError.malformed.message)

end Quire.Structured
