import Mathlib.Data.List.Lex
import Mathlib.Data.List.Sort
import Quire.Files.Lister
import Quire.Proofs.Chain
import Quire.Proofs.Files.Reordered
import Quire.Proofs.Files.Spelling

/-! Which files are listed, and in which order. For each pattern paths are found, in an order
that is left open. Those of files outside of skipped folders are listed by their names, each at
the place where it comes up first: by the pattern, and for one pattern by the text of the
path. -/

namespace Quire

namespace FileLister

/-! ### What is found where -/

/-- A path that was found: the number of the pattern, and the path as it is spelled. -/
structure Finding where
  pattern : Nat
  path : String

namespace Finding

/-- The name under which a path is listed. -/
def name (f : Finding) : String := (FileName.ofString f.path).text

/-- By the pattern, then by the text of the path. -/
def Before (f g : Finding) : Prop :=
  f.pattern < g.pattern ∨ f.pattern = g.pattern ∧ Text.codes f.path < Text.codes g.path

variable {f g h : Finding}

theorem before_irrefl (f : Finding) : ¬f.Before f := by
  simp [Before]

theorem Before.trans (first : f.Before g) (second : g.Before h) : f.Before h := by
  rcases first with earlier | ⟨same, earlier⟩ <;> rcases second with earlier' | ⟨same', earlier'⟩
  · exact .inl (earlier.trans earlier')
  · exact .inl (same' ▸ earlier)
  · exact .inl (same ▸ earlier')
  · exact .inr ⟨same.trans same', earlier.trans earlier'⟩

end Finding

/-- The first finding under a name. -/
structure First (offered : Finding → Prop) (name : String) (f : Finding) : Prop where
  found : offered f
  named : f.name = name
  least : ∀ g, offered g → g.name = name → ¬g.Before f

/-- One name comes up before another. -/
def Sooner (offered : Finding → Prop) (a b : String) : Prop :=
  ∀ f g, First offered a f → First offered b g → f.Before g

section Search

variable (l : FileLister) (t : FileTree) (find : String → Except Mishap (List String))

/-- A path is listed if it is that of a file and no part before the last is skipped. -/
structure Listable (path : String) : Prop where
  file : t.isFileText path = true
  unskipped : ∀ part ∈ (FileName.ofString path).steps.dropLast, part ∉ l.skip

/-- What can be listed: a path that is matched by the pattern of that number. -/
def Offered (matched : String → String → Prop) (patterns : List Value) (f : Finding) : Prop :=
  ∃ pattern, patterns[f.pattern]? = some pattern ∧ matched (l.anchored pattern.plain) f.path ∧
    l.Listable t f.path

/-- Of some paths those that are listed, in order. -/
def chosen (paths : List String) : List String :=
  (paths.mergeSort fun a b => !Text.comesBefore b a).filter fun m =>
    t.isFileText m && !l.skips (FileName.ofString m)

variable {l t find} {matched : String → String → Prop} {patterns : List Value}

end Search

/-! ### The list -/

/-- The names of what is offered, each once, in the order in which they come up first. -/
structure Lists (offered : Finding → Prop) (names : List String) : Prop where
  nodup : names.Nodup
  mem : ∀ n, n ∈ names ↔ ∃ f, offered f ∧ f.name = n
  first : ∀ n ∈ names, ∃ f, First offered n f
  sorted : names.Pairwise (Sooner offered)

/-- No more than one list is such. -/
theorem Lists.unique {offered : Finding → Prop} {names others : List String}
    (lists : Lists offered names) (lists' : Lists offered others) : names = others := by
  have perm : names.Perm others :=
    (List.perm_ext_iff_of_nodup lists.nodup lists'.nodup).mpr fun n =>
      (lists.mem n).trans (lists'.mem n).symm
  refine perm.eq_of_pairwise (fun a b inside inside' sooner later => ?_) lists.sorted lists'.sorted
  obtain ⟨f, firstA⟩ := lists.first a inside
  obtain ⟨g, firstB⟩ := lists'.first b inside'
  exact absurd ((sooner f g firstA firstB).trans (later g f firstB firstA)) f.before_irrefl

section Search

variable {l : FileLister} {t : FileTree} {find : String → Except Mishap (List String)}
  {matched : String → String → Prop} {patterns : List Value}

end Search

/-- A folder of documents beside one that is skipped. -/
def shelf : FileTree :=
  ⟨["home"], [(["home"], .folder), (["home", "docs"], .folder),
    (["home", "docs", "b.md"], .file []), (["home", "docs", "sub"], .folder),
    (["home", "docs", "sub", "c.md"], .file []), (["home", "docs", "a.md"], .file []),
    (["home", "node_modules"], .folder), (["home", "node_modules", "d.md"], .file [])]⟩

end FileLister
end Quire
