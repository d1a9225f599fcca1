import Quire.Config

/-! Settings of the kinds they are declared with. Settings are kept as they were given,
so this is a property of theirs and not part of them. -/

namespace Quire

namespace Value

def IsText (v : Value) : Prop := ∃ s, v = .str s

def IsFlag (v : Value) : Prop := ∃ b, v = .bool b

/-- A whole number; the truth values are whole numbers as well. -/
def IsWhole (v : Value) : Prop := ∃ n, v.number? = some (.whole n)

/-- An amount of something. Of how much there may be is said by a number, and no truth value
is taken for one. -/
def IsAmount (v : Value) : Prop := ∃ n, v = .ofNumber n

def IsCount (v : Value) : Prop := ∃ n, v = .int n

/-- Null, or of a kind. -/
def OrNull (kind : Value → Prop) (v : Value) : Prop := v = .null ∨ kind v

end Value

open Value

/-- A group of settings, and what holds of them. -/
def Section.Has {α : Type} (s : Section α) (held : α → Prop) : Prop := ∃ a, s = .fields a ∧ held a

structure SourceConfig.Typed (s : SourceConfig) : Prop where
  patterns : ∃ names : List String, s.patterns = .list (names.map .str)
  root : s.root = .other .null ∨ ∃ n, s.root = .path n
  encoding : s.encoding.IsText
  requireBlock : s.requireBlock.IsFlag

structure AdaptiveConfig.Typed (a : AdaptiveConfig) : Prop where
  workers : a.workers.IsWhole
  threshold : a.threshold.IsWhole

structure ProcessingConfig.Typed (p : ProcessingConfig) : Prop where
  parallel : p.parallel.IsFlag
  workers : p.workers.OrNull IsWhole
  adaptive : p.adaptive = .other .null ∨ p.adaptive.Has AdaptiveConfig.Typed

structure StrategyProfile.Typed (p : StrategyProfile) : Prop where
  minFiles : p.minFiles.IsWhole
  workers : p.workers.IsWhole

structure BoundsConfig.Typed (b : BoundsConfig) : Prop where
  memory : b.memory.OrNull IsAmount
  files : b.files.OrNull IsCount
  time : b.time.OrNull IsAmount
  unbounded : b.unbounded.IsFlag

structure OutputConfig.Typed (o : OutputConfig) : Prop where
  template : o.template.OrNull IsText
  path : o.path.OrNull IsText
  format : o.format.IsText

structure LoggingConfig.Typed (l : LoggingConfig) : Prop where
  level : l.level.IsText ∨ l.level.IsWhole
  propagate : l.propagate.IsFlag
  format : l.format.OrNull IsText
  logger : l.logger.IsText

structure Config.Typed (c : Config) : Prop where
  schemaPath : c.schemaPath.OrNull IsText
  mode : c.mode.IsText
  profileName : c.profileName.OrNull IsText
  sources : c.sources.Has SourceConfig.Typed
  processing : c.processing.Has ProcessingConfig.Typed
  profile : c.profile.Has StrategyProfile.Typed
  bounds : c.bounds.Has BoundsConfig.Typed
  output : c.output.Has OutputConfig.Typed
  logging : c.logging.Has LoggingConfig.Typed

end Quire
