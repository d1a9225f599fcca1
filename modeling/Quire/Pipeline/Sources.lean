import Quire.Config
import Quire.Document
import Quire.Files.Lister
import Quire.Template

/-! What a pipeline works with: where files are found, how they are read and cut
and how output is made. The settings decide, except for what is put in from
outside. -/

namespace Quire

structure Sources where
  list : FileTree → Value → Attempt (List String)
  read : FileTree → String → Outcome String
  extract : String → String → Outcome Extracted

/-- Parts that are used in place of those from the settings. -/
structure Replacement where
  list : Option (FileTree → Value → Attempt (List String)) := none
  read : Option (FileTree → String → Outcome String) := none
  extract : Option (String → String → Outcome Extracted) := none

namespace SourceConfig

def lister (s : SourceConfig) : FileLister := { root := s.root.name? }

def reader (s : SourceConfig) : FileReader := { encoding := s.encoding }

def sources (s : SourceConfig) (r : Replacement) : Sources where
  list := r.list.getD s.lister.attempt
  read := r.read.getD s.reader.read
  extract := r.extract.getD fun text path =>
    Frontmatter.extract s.requireBlock.truthy text (some path)

end SourceConfig

/-- How templates are read and filled, and how output is written. -/
structure Renderer where
  load : FileTree → String → Attempt Template := fun t path => Template.load t (FileName.ofString path)
  render : Template → Value → Outcome String := fun template data => template.render data
  write : FileTree → String → String → FileTree × Outcome String := fun t text path =>
    Template.writeOutput t (FileName.ofString path) text

end Quire
