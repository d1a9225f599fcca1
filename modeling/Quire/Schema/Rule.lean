import Quire.Failure
import Quire.Path

/-! Rules that a document's metadata has to meet, one a field, each under the
dot path of the field. A rule below another field applies only where that
field holds a mapping. -/

namespace Quire

structure FieldRule where
  path : String
  /-- Names of accepted types; any value passes when there are none. -/
  types : List String := []
  required : Bool := false
  default : Option Value := none
  allowed : Option (List Value) := none
  itemType : Option String := none

namespace FieldRule

def isWholeNumber : Value → Bool
  | .int _ => true
  | .real x => x.isWhole
  | _ => false

def isNumber : Value → Bool
  | .int _ => true
  | .real _ => true
  | _ => false

/-- Whether a value is of the named type. A name that is not known takes any
value; truth values are no numbers. -/
def hasType (v : Value) (name : String) : Bool :=
  match name with
  | "null" => v.isNull
  | "string" => v.kind = .str
  | "number" => isNumber v
  | "integer" => isWholeNumber v
  | "boolean" => v.kind = .bool
  | "array" => v.kind = .list || v.kind = .tuple
  | "object" => v.kind = .map
  | _ => true

inductive Violation
  | missing (path : String)
  | wrongType (path : String) (expected : List String) (found : String)
  | notAllowed (path : String) (found : Value) (allowed : List Value)
  | wrongItem (path : String) (index : Nat) (expected found : String)

def Violation.message : Violation → String
  | .missing path => path ++ ": required field is missing"
  | .wrongType path expected found =>
    path ++ ": expected " ++ " | ".intercalate expected ++ ", got " ++ found
  | .notAllowed path found allowed =>
    path ++ ": " ++ found.shown ++ " is not one of " ++ (Value.list allowed).shown
  | .wrongItem path index expected found =>
    path ++ s!"[{index}]: expected " ++ expected ++ ", got " ++ found

/-- The first item that is not of the type. -/
def firstWrongItem (path type : String) (index : Nat) : List Value → Option Violation
  | [] => none
  | v :: vs =>
    if hasType v type then firstWrongItem path type (index + 1) vs
    else some (.wrongItem path index type v.kindName)

def checkItems (r : FieldRule) (v : Value) : Option Violation :=
  match r.itemType, v.elements? with
  | some type, some xs => if type = "" then none else firstWrongItem r.path type 0 xs
  | _, _ => none

/-- What is wrong with a value that is there. -/
def checkValue (r : FieldRule) (v : Value) : Option Violation :=
  if !r.types.isEmpty && !r.types.any (hasType v) then
    some (.wrongType r.path r.types v.kindName)
  else match r.allowed with
    | some allowed => if v.among allowed then r.checkItems v else some (.notAllowed r.path v allowed)
    | none => r.checkItems v

def checkFound (r : FieldRule) (found : Option Value) : Option Violation :=
  match found with
  | none => if r.required then some (.missing r.path) else none
  | some v => r.checkValue v

def check (r : FieldRule) (metadata : Value) : Except PathError (Option Violation) := do
  return r.checkFound (← Path.find metadata r.path)

/-- The path before the last dot; empty when there is none. -/
def parent (r : FieldRule) : String :=
  let before := r.path.toList.reverse.dropWhile (· ≠ '.')
  String.ofList (before.drop 1).reverse

/-- Whether the rule applies: its parent, if any, must be a mapping. -/
def applies (r : FieldRule) (metadata : Value) : Except PathError Bool :=
  if r.parent = "" then .ok true
  else do
    match ← Path.get metadata r.parent with
    | some (.map _) => return true
    | _ => return false

def violation (r : FieldRule) (metadata : Value) : Except PathError (Option Violation) := do
  if ← r.applies metadata then r.check metadata else return none

end FieldRule

structure RuleSet where
  rules : List FieldRule := []
  scope : String := "root"

namespace RuleSet

def violations (s : RuleSet) (metadata : Value) : Except PathError (List FieldRule.Violation) := do
  return (← s.rules.mapM fun r => r.violation metadata).filterMap id

def fault (message : String) (violations : List String) (path : Option String) : Fault :=
  { kind := .validation, message, path, violations }

def faultOf (found : List FieldRule.Violation) (path : Option String) : Fault :=
  let messages := found.map (·.message)
  fault (s!"{found.length} validation error(s): " ++ "; ".intercalate messages) messages path

/-- Metadata must be a mapping without violations. -/
def validate (s : RuleSet) (metadata : Value) (path : Option String) : Outcome Unit := do
  match metadata with
  | .map _ =>
    let found ← s.violations metadata
    if !found.isEmpty then throw (.fault (faultOf found path))
  | v => throw (.fault (fault ("metadata must be an object, got " ++ v.kindName) [] path))

end RuleSet
end Quire
