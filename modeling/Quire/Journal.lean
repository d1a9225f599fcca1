import Quire.Notes

/-! The journal of a run: notes in the order in which they were taken, each
with the part of the program that took it. -/

namespace Quire

/-- Where notes come from. -/
inductive Channel
  | pipeline | rendering | schema | files | runner | strategy
  deriving DecidableEq, Repr

/-- The logger that notes of a channel go to. -/
def Channel.logger : Channel → String
  | .pipeline => "docweave.core.pipeline"
  | .rendering => "docweave.core.render"
  | .schema => "docweave.core.schema"
  | .files => "docweave.sources.fs"
  | .runner => "docweave.cli.runner"
  | .strategy => "docweave.core.strategy"

structure Entry where
  channel : Channel
  note : Note
  deriving DecidableEq, Repr

abbrev Journal := List Entry

def Channel.entries (c : Channel) (notes : List Note) : Journal := notes.map (Entry.mk c)

end Quire
