import Quire.Files.Name
import Quire.Proofs.Path

/-! Names of files and their written forms. What is read from a text has parts that can be
spelled, and a name with such parts reads back from its written form. -/

namespace Quire.FileName

/-- Parts that can be spelled are neither empty nor a dot, and no separator is in them. -/
def Spellable (parts : List String) : Prop :=
  ∀ part ∈ parts, isPart part = true ∧ '/' ∉ part.toList

def Spelled (n : FileName) : Prop := Spellable n.parts

variable {n : FileName} {parts : List String}

theorem ofString_spelled (s : String) : (ofString s).Spelled := by
  intro part inside
  obtain ⟨among, some'⟩ := List.mem_filter.mp inside
  obtain ⟨cs, piece, rfl⟩ := List.mem_map.mp among
  refine ⟨some', ?_⟩
  rw [String.toList_ofList]
  exact notMem_of_mem_splitChars piece

/-- The parts with separators between them. -/
def joined (parts : List String) : List Char := ['/'].intercalate (parts.map String.toList)

theorem toList_text (n : FileName) : n.text.toList =
    if n.anchor = .relative ∧ n.parts = [] then ['.']
    else n.anchor.text.toList ++ joined n.parts := by
  rw [text]
  split
  · rfl
  · simp [joined, String.toList_intercalate]

theorem pieces_joined (spellable : Spellable parts) :
    ((splitChars '/' (joined parts)).map String.ofList).filter isPart = parts := by
  cases parts with
  | nil => rfl
  | cons part parts =>
    have split : splitChars '/' (joined (part :: parts)) = (part :: parts).map String.toList := by
      rw [splitChars_eq_splitOn]
      refine List.splitOn_intercalate '/' (fun piece here => ?_) (by simp)
      obtain ⟨part', inside, rfl⟩ := List.mem_map.mp here
      exact (spellable part' inside).2
    rw [split, List.map_map, List.filter_eq_self.mpr]
    · simp [Function.comp_def]
    · intro part' inside
      refine (spellable part' ?_).1
      simpa [Function.comp_def] using inside

/-- Parts do not begin with a separator. -/
theorem joined_front (spellable : Spellable parts) (rest : List Char) :
    joined parts ≠ '/' :: rest := by
  cases parts with
  | nil => exact nofun
  | cons part parts =>
    obtain ⟨some', unsplit⟩ := spellable part List.mem_cons_self
    have front : ∃ c cs, part.toList = c :: cs := by
      refine List.exists_cons_of_ne_nil fun empty => ?_
      simp_all [isPart]
    obtain ⟨c, cs, spelt⟩ := front
    intro same
    have first : (joined (part :: parts)).head? = some c := by
      cases parts <;> simp [joined, spelt]
    rw [same] at first
    cases first
    simp [spelt] at unsplit

/-- An anchor is told by its text where no separator follows. -/
theorem anchorOf_append {cs : List Char} (front : ∀ rest, cs ≠ '/' :: rest) (a : Anchor) :
    anchorOf (a.text.toList ++ cs) = a := by
  cases cs with
  | nil => cases a <;> rfl
  | cons c rest =>
    have other : c ≠ '/' := fun same => front rest (same ▸ rfl)
    cases a <;> simp [Anchor.text, anchorOf, other]

/-- Separators in front of a text add no part. -/
theorem parts_append (a : Anchor) (cs : List Char) :
    ((splitChars '/' (a.text.toList ++ cs)).map String.ofList).filter isPart =
      ((splitChars '/' cs).map String.ofList).filter isPart := by
  have blank : isPart (String.ofList []) = false := by decide
  have cut (cs : List Char) : splitChars '/' ('/' :: cs) = [] :: splitChars '/' cs :=
    splitChars_append_cons '/' [] cs
  cases a <;> simp [Anchor.text, cut, blank]

/-- A name reads back from its written form. -/
theorem ofString_text (spelled : n.Spelled) : ofString n.text = n := by
  obtain ⟨anchor, parts⟩ := n
  rw [ofString, pieces, toList_text]
  split
  · next empty =>
    obtain ⟨rfl, rfl⟩ := empty
    decide
  · rw [anchorOf_append (joined_front spelled), parts_append, pieces_joined spelled]

end Quire.FileName
