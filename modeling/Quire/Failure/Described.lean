import Quire.Value.Parts
import Quire.Value.Sequence

/-! Failures by their descriptions. A description names what went wrong and gives
a message; that of a fault may give a path and details as well. -/

namespace Quire

namespace Fault

/-- Names that stand beside details and are none. -/
def reservedNames : List String := ["self", "message", "path"]

def checkDetails (details : Entries) : Except Mishap Unit :=
  if !details.all fun d => d.1.str?.isSome then .error (.badKind "keywords must be strings")
  else match reservedNames.find? fun name => Entries.has details (.str name) with
    | some name => .error (.badKind ("got multiple values for argument '" ++ name ++ "'"))
    | none => .ok ()

/-- The violations stand among the details of a fault of validation. -/
def violationsOf (details : Entries) : Except Mishap (List String) := do
  match Entries.field? details "violations" with
  | some v => return (← v.members).map Value.plain
  | none => return []

def named (details : Entries) : List (String × Value) := details.map fun d => (d.1.plain, d.2)

/-- A fault from its parts; an event that was not accepted has other ones. -/
def ofParts (kind : Kind) (message path : Value) (details : Entries) : Except Mishap Fault := do
  if kind = .transition then throw (.badKind (kind.label ++ " takes named arguments only"))
  checkDetails details
  let fault : Fault := { kind, message := message.plain, path := if path.isNull then none else some path.plain }
  if kind = .validation then
    let rest := Entries.erase details (.str "violations")
    return { fault with details := named rest, violations := ← violationsOf details }
  return { fault with details := named details }

/-- An event that was not accepted, from what is known of it. -/
def ofRejection (es : Entries) : Except Mishap Fault := do
  Entries.checkParts Kind.transition.label ["state", "expected", "actual"] [] es
  let state ← Entries.need es "state"
  let expected ← Entries.need es "expected"
  let actual ← Entries.need es "actual"
  return { rejected state.plain expected.plain actual.plain with
    details := [("state", state), ("expected", expected), ("actual", actual)] }

end Fault

namespace Failure

/-- Mishaps that can be described. -/
def describable : List Mishap.Kind := [.badValue, .noKey, .system, .runtime]

def mishapOf? (name : String) (message : Value) : Option Mishap :=
  (describable.find? fun k => k.label = name).map fun k =>
    ⟨k, if k = .noKey then message.shown else message.plain⟩

/-- The failure that a description stands for. A fault without a path of its own
has the one at hand. -/
def ofDescription (description path : Value) : Except Mishap Failure := do
  let .map es := description
    | throw (.badKind ("'" ++ description.kindName ++ "' object is not subscriptable"))
  let name := (← Entries.need es "type").plain
  let message ← Entries.need es "message"
  match Fault.Kind.all.find? fun k => k.label = name with
  | some kind =>
    let details ← ((Entries.field? es "details").getD (.map [])).toEntries
    return .fault (← Fault.ofParts kind message ((Entries.field? es "path").getD path) details)
  | none => match mishapOf? name message with
    | some m => return .mishap m
    | none => throw (.noKey name)

end Failure
end Quire
