import Quire.Config

/-! Levels of severity by number and by name. -/

namespace Quire.Level

/-- Names and numbers; of two names for a number the first is the one shown. -/
def named : List (String × Int) :=
  [("CRITICAL", 50), ("FATAL", 50), ("ERROR", 40), ("WARNING", 30), ("WARN", 30), ("INFO", 20),
   ("DEBUG", 10), ("NOTSET", 0)]

/-- The level that a setting asks for. Numbers stand for themselves; a name that
is not known means `INFO`. -/
def ofValue (v : Value) : Except Mishap Value :=
  match v with
  | .int n => .ok (.int n)
  | .bool b => .ok (.bool b)
  | .str s => .ok (.int ((named.lookup (Text.upper (Text.strip s))).getD 20))
  | v => .error (noAttribute v "strip")

def rank : Value → Int
  | .int n => n
  | .bool b => if b then 1 else 0
  | _ => 0

def isNumber : Value → Bool
  | .int _ => true
  | .bool _ => true
  | _ => false

def label (level : Value) : String :=
  match named.find? fun p => p.2 = rank level with
  | some (name, _) => name
  | none => "Level " ++ level.plain

theorem label_info : label (.int 20) = "INFO" := by decide

end Quire.Level
