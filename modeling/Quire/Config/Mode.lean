import Quire.Config

/-! Modes of a run, and the named strategy profiles. -/

namespace Quire

/-- Full runs validate and render; the other two leave out one of these. -/
inductive Mode
  | full
  | templateOnly
  | validationOnly
  deriving DecidableEq, Repr

namespace Mode

def name : Mode → String
  | .full => "full"
  | .templateOnly => "template-only"
  | .validationOnly => "validation-only"

/-- All modes, in the order of their names. -/
def all : List Mode := [.full, .templateOnly, .validationOnly]

def badMode (v : Value) : Fault :=
  .configuration ("Invalid pipeline mode: " ++ v.shown ++ ". Expected one of "
    ++ (Value.list (all.map fun m => .str m.name)).shown) none

def hyphenated (s : String) : String :=
  String.ofList (s.toList.map fun c => if c = '_' then '-' else c)

def ofName? (s : String) : Option Mode :=
  if s = "standard" then some .full else all.find? fun m => m.name = s

/-- The mode that a setting names; nothing at all names the full mode. -/
def ofValue (v : Value) : Outcome Mode := do
  let text ← loweredText (v.orElse (.str "full"))
  match ofName? (hyphenated text) with
  | some m => return m
  | none => throw (.fault (badMode v))

theorem ofName?_name (m : Mode) : ofName? m.name = some m := by
  cases m <;> decide

end Mode

namespace StrategyProfile

/-- The presets, in the order of their names: fewest files and workers. -/
def presets : List (String × Int × Int) :=
  [("aggressive", 1, 8), ("balanced", 2, 4), ("conservative", 5, 2)]

def unknownPreset (v : Value) : Fault :=
  .configuration ("Unknown strategy profile " ++ v.shown ++ ". Expected one of "
    ++ (Value.list (presets.map fun p => .str p.1)).shown) none

def ofPreset (name : Value) : Outcome StrategyProfile := do
  let key ← loweredText (name.orElse (.str ""))
  match presets.lookup key with
  | some (files, workers) => return ⟨.int files, .int workers⟩
  | none => throw (.fault (unknownPreset name))

end StrategyProfile
end Quire
