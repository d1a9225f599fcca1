import Quire.Value.Shown

/-! What can go wrong. A fault is one the library foresees: it has a kind, a
message, and often the path of the document at hand. A mishap comes from
below, out of reading text or using a value of the wrong kind; it turns into a
fault where a run must go on. -/

namespace Quire

inductive Fault.Kind
  | general | configuration | path | read | notFound | permission | extraction
  | validation | bounds | aggregation | template | unexpected | transition
  deriving DecidableEq, Repr

structure Fault where
  kind : Fault.Kind
  message : String
  path : Option String := none
  details : List (String × Value) := []
  violations : List String := []

namespace Fault

/-- The short tag under which faults are counted. -/
def Kind.tag : Kind → String
  | .general => "error"
  | .configuration => "configuration"
  | .path => "path"
  | .read => "read"
  | .notFound => "not_found"
  | .permission => "permission"
  | .extraction => "extraction"
  | .validation => "validation"
  | .bounds => "bounds"
  | .aggregation => "aggregation"
  | .template => "template"
  | .unexpected => "unexpected"
  | .transition => "state_transition"

def Kind.all : List Kind :=
  [.general, .configuration, .path, .read, .notFound, .permission, .extraction,
   .validation, .bounds, .aggregation, .template, .unexpected, .transition]

/-- The full name, as reports of unexpected trouble give it. -/
def Kind.label : Kind → String
  | .general => "DocweaveError"
  | .configuration => "ConfigurationError"
  | .path => "FilePathError"
  | .read => "FileReadError"
  | .notFound => "FileNotFound"
  | .permission => "PermissionDenied"
  | .extraction => "ExtractionError"
  | .validation => "ValidationError"
  | .bounds => "BoundsViolation"
  | .aggregation => "AggregationError"
  | .template => "TemplateError"
  | .unexpected => "ProcessingError"
  | .transition => "TransitionRejected"

/-- Absence and lack of permission are ways of failing to read. -/
def Kind.isRead : Kind → Bool
  | .read | .notFound | .permission => true
  | _ => false

def configuration (message : String) (path : Option String) : Fault :=
  { kind := .configuration, message, path }

/-- A detail is kept when a report can hold it, and shown otherwise. -/
def reportDetail : Value → Value
  | .str s => .str s
  | .int n => .int n
  | .real x => .real x
  | .bool b => .bool b
  | v => .str v.shown

/-- The fault as a record; absent parts are left out. -/
def report (f : Fault) : Value :=
  .record ([("kind", .str f.kind.tag), ("message", .str f.message)] ++
    (f.path.map fun p => ("path", Value.str p)).toList ++
    (if f.details.isEmpty then []
     else [("details", .record (f.details.map fun d => (d.1, reportDetail d.2)))]))

/-- An event that the current state does not accept. -/
def rejected (state expected actual : String) : Fault :=
  { kind := .transition
    message := "State " ++ state ++ " expected event " ++ expected ++ ", got " ++ actual
    details := [("state", .str state), ("expected", .str expected), ("actual", .str actual)] }

end Fault

inductive Mishap.Kind
  | badValue | badKind | noField | noKey | noIndex | system | missingFile | existingFile
  | notDirectory | isDirectory | noName | overflow | undecodable | unencodable | unicode
  | runtime | zeroDivision | recursion
  /-- Trouble of a kind that nothing here tells apart, under its own name. -/
  | other (name : String)
  deriving DecidableEq, Repr

structure Mishap where
  kind : Mishap.Kind
  text : String

namespace Mishap

def Kind.label : Kind → String
  | .badValue => "ValueError"
  | .badKind => "TypeError"
  | .noField => "AttributeError"
  | .noKey => "KeyError"
  | .noIndex => "IndexError"
  | .system => "OSError"
  | .missingFile => "FileNotFoundError"
  | .existingFile => "FileExistsError"
  | .notDirectory => "NotADirectoryError"
  | .isDirectory => "IsADirectoryError"
  | .noName => "LookupError"
  | .overflow => "OverflowError"
  | .undecodable => "UnicodeDecodeError"
  | .unencodable => "UnicodeEncodeError"
  | .unicode => "UnicodeError"
  | .runtime => "RuntimeError"
  | .zeroDivision => "ZeroDivisionError"
  | .recursion => "RecursionError"
  | .other name => name

/-- Trouble with the value of something, as opposed to its kind. -/
def Kind.isValue : Kind → Bool
  | .badValue | .undecodable | .unencodable | .unicode => true
  | _ => false

/-- Trouble in the file system. -/
def Kind.isSystem : Kind → Bool
  | .system | .missingFile | .existingFile | .notDirectory | .isDirectory => true
  | _ => false

def badValue (text : String) : Mishap := ⟨.badValue, text⟩
def badKind (text : String) : Mishap := ⟨.badKind, text⟩
def noField (text : String) : Mishap := ⟨.noField, text⟩

/-- Nesting without an end, or deeper than can be followed. -/
def tooDeep (doing : String) : Mishap := ⟨.recursion, "maximum recursion depth exceeded" ++ doing⟩

/-- A key that is not there; its text is shown with quotes. -/
def noKey (name : String) : Mishap := ⟨.noKey, Text.quoted name⟩

end Mishap

inductive Failure
  | fault (f : Fault)
  | mishap (m : Mishap)

namespace Failure

def label : Failure → String
  | .fault f => f.kind.label
  | .mishap m => m.kind.label

def text : Failure → String
  | .fault f => f.message
  | .mishap m => m.text

/-- Faults of configuration are troubles with a value as well. -/
def isValueTrouble : Failure → Bool
  | .fault f => f.kind = .configuration
  | .mishap m => m.kind.isValue

/-- The unexpected, as a fault that names what it came from. -/
def wrap (failure : Failure) (path : Option String) : Fault :=
  { kind := .unexpected
    message := failure.label ++ ": " ++ failure.text
    path
    details := [("cause", .str failure.label)] }

/-- A fault as it is, a mishap wrapped. -/
def toFault (failure : Failure) (path : Option String) : Fault :=
  match failure with
  | .fault f => f
  | .mishap m => wrap (.mishap m) path

end Failure

abbrev Outcome (α : Type) := Except Failure α

instance : MonadLift (Except Fault) (Except Failure) where
  monadLift
    | .ok a => .ok a
    | .error f => .error (.fault f)

instance : MonadLift (Except Mishap) (Except Failure) where
  monadLift
    | .ok a => .ok a
    | .error m => .error (.mishap m)

theorem Failure.toFault_fault (f : Fault) (path : Option String) :
    (Failure.fault f).toFault path = f := rfl

end Quire
