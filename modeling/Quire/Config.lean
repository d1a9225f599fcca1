import Quire.Files.Name
import Quire.Text.Case

/-! What a run can be told: where documents come from, how they are processed,
within which bounds, where the output goes and what is logged. Settings are kept
as they were given; checking them is a step of its own. -/

namespace Quire

/-- A group of settings, or what was put in the place of one. -/
inductive Section (α : Type)
  | fields (a : α)
  | other (v : Value)

/-- The folder that relative patterns are meant from, or what was put in its place. -/
inductive RootSetting
  | path (n : FileName)
  | other (v : Value)

structure SourceConfig where
  patterns : Value := .list []
  root : RootSetting := .other .null
  encoding : Value := .str "utf-8"
  requireBlock : Value := .bool true

/-- Parallel only above a number of files. -/
structure AdaptiveConfig where
  workers : Value := .int 4
  threshold : Value := .int 10

structure ProcessingConfig where
  parallel : Value := .bool false
  workers : Value := .null
  adaptive : Section AdaptiveConfig := .other .null

/-- What the choice between sequential and parallel falls back on. -/
structure StrategyProfile where
  minFiles : Value := .int 2
  workers : Value := .int 4

structure BoundsConfig where
  memory : Value := .null
  files : Value := .null
  time : Value := .null
  unbounded : Value := .bool false

structure OutputConfig where
  template : Value := .null
  path : Value := .null
  format : Value := .str "json"

def defaultLogFormat : String := "%(asctime)s %(levelname)s %(name)s: %(message)s"

def packageLogger : String := "docweave"

structure LoggingConfig where
  level : Value := .str "INFO"
  propagate : Value := .bool false
  format : Value := .str defaultLogFormat
  logger : Value := .str packageLogger

structure Config where
  schemaPath : Value := .null
  mode : Value := .str "full"
  profileName : Value := .null
  sources : Section SourceConfig := .fields {}
  processing : Section ProcessingConfig := .fields {}
  profile : Section StrategyProfile := .fields {}
  bounds : Section BoundsConfig := .fields {}
  output : Section OutputConfig := .fields {}
  logging : Section LoggingConfig := .fields {}

/-- Asking a value for something that its kind does not have. -/
def noAttribute (v : Value) (name : String) : Mishap :=
  .noField ("'" ++ v.kindName ++ "' object has no attribute '" ++ name ++ "'")

namespace Section

/-- What is no group of settings has nothing to ask for. -/
def get {α : Type} (s : Section α) (name : String) : Except Mishap α :=
  match s with
  | .fields a => .ok a
  | .other v => .error (noAttribute v name)

/-- The group where it matters whether there is one; null says that there is none. -/
def given {α : Type} (s : Section α) (name : String) : Except Mishap (Option α) :=
  match s with
  | .other .null => .ok none
  | s => do return some (← s.get name)

/-- The group, or a default where there is null. -/
def getOr {α : Type} (s : Section α) (default : α) (name : String) : Except Mishap α := do
  return (← s.given name).getD default

end Section

/-- The folder, if there is one; text stands for a name. -/
def RootSetting.name? : RootSetting → Option FileName
  | .path n => some n
  | .other (.str s) => some (FileName.ofString s)
  | .other _ => none

/-- A value, or another where it counts as nothing. -/
def Value.orElse (v w : Value) : Value := if v.truthy then v else w

def Value.nonNull (v : Value) : Option Value := if v.isNull then none else some v

/-- Text without blanks around it, in lower case. -/
def loweredText (v : Value) : Except Mishap String :=
  match v with
  | .str s => .ok (Text.lower (Text.strip s))
  | v => .error (noAttribute v "strip")

end Quire
