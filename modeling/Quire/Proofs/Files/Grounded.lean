import Mathlib.Data.List.Basic
import Quire.Files.Reader
import Quire.Proofs.Chain

/-! Trees that hang together: the home folder is there, and whatever is there lies in a
folder. Names lead to places that are there; making folders and writing files keeps it so,
and names go on leading where they led. -/

namespace Quire.FileTree

/-- A tree in which everything lies in a folder. -/
structure Grounded (t : FileTree) : Prop where
  home : t.node? t.home = some .folder
  above : ∀ place part, (t.node? (place ++ [part])).isSome = true → t.node? place = some .folder

/-- A tree in which there is all that was there before, and folders are still folders. -/
structure Extends (t u : FileTree) : Prop where
  home : u.home = t.home
  folder : ∀ place, t.node? place = some .folder → u.node? place = some .folder
  there : ∀ place, (t.node? place).isSome = true → (u.node? place).isSome = true

/-- The bytes of the file at a place, if there is one. -/
def bytesAt (t : FileTree) (place : Place) : Option (List UInt8) :=
  match t.node? place with
  | some (.file bytes) => some bytes
  | _ => none

variable {t u v : FileTree} {place q : Place} {n : FileName}

theorem node?_root (t : FileTree) : t.node? [] = some .folder := if_pos rfl

theorem Extends.refl (t : FileTree) : t.Extends t := ⟨rfl, fun _ => id, fun _ => id⟩

theorem Extends.trans (first : t.Extends u) (second : u.Extends v) : t.Extends v where
  home := second.home.trans first.home
  folder place here := second.folder place (first.folder place here)
  there place here := second.there place (first.there place here)

theorem isSome_node? (place : Place) (part : String) :
    (t.node? (place ++ [part])).isSome = true ↔ ∃ e ∈ t.nodes, e.1 = place ++ [part] := by
  have below : place ++ [part] ≠ [] := by simp
  rw [node?, if_neg below, List.lookup_isSome_iff]
  exact exists_congr fun e => and_congr_right fun _ => beq_iff_eq.trans eq_comm

/-- It is enough to look at the entries. -/
theorem grounded_iff : t.Grounded ↔ t.node? t.home = some .folder ∧
    ∀ e ∈ t.nodes, t.node? e.1.dropLast = some .folder := by
  constructor
  · intro grounded
    refine ⟨grounded.home, fun e inside => ?_⟩
    rcases List.eq_nil_or_concat e.1 with root | ⟨front, part, same⟩
    · rw [root]
      exact t.node?_root
    · rw [List.concat_eq_append] at same
      rw [same, List.dropLast_concat]
      exact grounded.above front part ((isSome_node? front part).mpr ⟨e, inside, same⟩)
  · rintro ⟨home, above⟩
    refine ⟨home, fun place part there => ?_⟩
    obtain ⟨e, inside, same⟩ := (isSome_node? place part).mp there
    have folder := above e inside
    rwa [same, List.dropLast_concat] at folder

instance (t : FileTree) : Decidable t.Grounded := decidable_of_iff _ grounded_iff.symm

/-! ### Where names lead -/

/-- One step along a name, from a folder that is there. -/
theorem walk_cons {part : String} {rest : List String} :
    t.walk place (part :: rest) =
      if t.node? place = some .folder then
        if part = "" ∨ part = "." then t.walk place rest
        else if part = ".." then t.walk place.dropLast rest
        else if isTooLong part then .error .tooLong
        else if (t.node? (place ++ [part])).isSome then t.walk (place ++ [part]) rest
        else .error .missing
      else .error (if (t.node? place).isSome then .notFolder else .missing) := by
  rw [walk]
  rcases t.node? place with _ | _ | bytes <;> rfl

theorem walk_cons_ok {part : String} {rest : List String} {r : Place}
    (led : t.walk place (part :: rest) = .ok r) :
    t.node? place = some .folder ∧
      ((part = "" ∨ part = ".") ∧ t.walk place rest = .ok r ∨
      ¬(part = "" ∨ part = ".") ∧ part = ".." ∧ t.walk place.dropLast rest = .ok r ∨
      ¬(part = "" ∨ part = ".") ∧ part ≠ ".." ∧ isTooLong part = false ∧
        (t.node? (place ++ [part])).isSome = true ∧ t.walk (place ++ [part]) rest = .ok r) := by
  rw [walk_cons] at led
  split at led
  · next folder =>
    refine ⟨folder, ?_⟩
    split at led
    · next here => exact .inl ⟨here, led⟩
    · next other =>
      split at led
      · next up => exact .inr (.inl ⟨other, up, led⟩)
      · next down =>
        split at led
        · cases led
        · next short =>
          split at led
          · next there => exact .inr (.inr ⟨other, down, by simpa using short, there, led⟩)
          · cases led
  · cases led

/-- A name leads where it led in any tree that has all that this one has. -/
theorem walk_extends (more : t.Extends u) {parts : List String} {r : Place}
    (led : t.walk place parts = .ok r) : u.walk place parts = .ok r := by
  induction parts generalizing place with
  | nil => exact led
  | cons part rest ih =>
    obtain ⟨folder, steps⟩ := walk_cons_ok led
    rw [walk_cons, if_pos (more.folder place folder)]
    rcases steps with ⟨here, led⟩ | ⟨other, up, led⟩ | ⟨other, down, short, there, led⟩
    · rw [if_pos here]
      exact ih led
    · rw [if_neg other, if_pos up]
      exact ih led
    · rw [if_neg other, if_neg down, short, if_neg Bool.false_ne_true,
        if_pos (more.there _ there)]
      exact ih led

theorem locate_extends (more : t.Extends u) (led : t.locate n = .ok place) :
    u.locate n = .ok place := by
  unfold locate at led ⊢
  split at led
  · cases led
  · next short =>
    rw [if_neg short]
    have start : u.start n = t.start n := by
      unfold FileTree.start
      rw [more.home]
    rw [start]
    exact walk_extends more led

namespace Grounded

variable (grounded : t.Grounded)
include grounded

theorem dropLast (folder : t.node? place = some .folder) :
    t.node? place.dropLast = some .folder := by
  rcases List.eq_nil_or_concat place with rfl | ⟨front, part, rfl⟩
  · exact folder
  · rw [List.concat_eq_append, List.dropLast_concat]
    rw [List.concat_eq_append] at folder
    exact grounded.above front part (by rw [folder]; rfl)

theorem start (n : FileName) : t.node? (t.start n) = some .folder := by
  unfold FileTree.start
  split
  · exact t.node?_root
  · exact grounded.home

/-- A name that leads somewhere leads to what is there. -/
theorem walk_there {parts : List String} {r : Place} (there : (t.node? place).isSome = true)
    (led : t.walk place parts = .ok r) : (t.node? r).isSome = true := by
  induction parts generalizing place with
  | nil =>
    obtain rfl := Except.ok.inj led
    exact there
  | cons part rest ih =>
    obtain ⟨folder, steps⟩ := walk_cons_ok led
    rcases steps with ⟨_, led⟩ | ⟨_, _, led⟩ | ⟨_, _, _, there, led⟩
    · exact ih there led
    · exact ih (by rw [grounded.dropLast folder]; rfl) led
    · exact ih there led

theorem locate_there (led : t.locate n = .ok place) : (t.node? place).isSome = true := by
  unfold locate at led
  split at led
  · cases led
  · exact grounded.walk_there (by rw [grounded.start n]; rfl) led

end Grounded

theorem walk_append (xs ys : List String) :
    t.walk place (xs ++ ys) = (t.walk place xs).bind fun r => t.walk r ys := by
  induction xs generalizing place with
  | nil => rfl
  | cons part rest ih =>
    rw [List.cons_append, walk_cons, walk_cons]
    split
    · split
      · exact ih
      · split
        · exact ih
        · split
          · rfl
          · split
            · exact ih
            · rfl
    · rfl

/-! ### New entries -/

/-- Something was put where a name leads: a file that took the place of no folder, or a new
folder. -/
structure Entered (t u : FileTree) (n : FileName) (place : Place) (node : Node) : Prop where
  put : u = t.put place node
  below : place ≠ []
  leads : u.locate n = .ok place
  vacant : t.node? place ≠ some .folder
  extends' : t.Extends u
  grounded : u.Grounded

theorem extends_put (node : Node) (below : place ≠ []) (vacant : t.node? place ≠ some .folder) :
    t.Extends (t.put place node) where
  home := rfl
  folder q here := by
    have other : q ≠ place := fun same => vacant (same ▸ here)
    rw [node?_put t place q node below, if_neg other]
    exact here
  there q here := by
    rw [node?_put t place q node below]
    split
    · rfl
    · exact here

theorem Grounded.put {node : Node} (grounded : t.Grounded) {front : Place} {part : String}
    (folder : t.node? front = some .folder) (vacant : t.node? (front ++ [part]) ≠ some .folder) :
    (t.put (front ++ [part]) node).Grounded := by
  have below : front ++ [part] ≠ [] := by simp
  have more := extends_put node below vacant
  refine ⟨more.folder _ grounded.home, fun q part' there => more.folder q ?_⟩
  rw [node?_put t _ _ node below] at there
  split at there
  · next same =>
    obtain ⟨rfl, _⟩ := List.append_inj' same rfl
    exact folder
  · exact grounded.above q part' there

theorem bytesAt_put {node : Node} (below : place ≠ []) (q : Place) :
    (t.put place node).bytesAt q =
      if q = place then (match node with | .file bytes => some bytes | .folder => none)
      else t.bytesAt q := by
  unfold bytesAt
  rw [node?_put t place q node below]
  by_cases here : q = place
  · rw [if_pos here, if_pos here]
    cases node <;> rfl
  · rw [if_neg here, if_neg here]

/-- A part that leads to an entry of its own, and not back to where one is. -/
structure Proper (part : String) : Prop where
  other : ¬(part = "" ∨ part = ".")
  down : part ≠ ".."
  short : isTooLong part = false

theorem walk_proper {part : String} (proper : Proper part) (folder : t.node? place = some .folder)
    (there : (t.node? (place ++ [part])).isSome = true) :
    t.walk place [part] = .ok (place ++ [part]) := by
  rw [walk_cons, if_pos folder, if_neg proper.other, if_neg proper.down, proper.short,
    if_neg Bool.false_ne_true, if_pos there]
  rfl

theorem proper_of_missing {part : String} (there : (t.node? place).isSome = true)
    (missing : t.walk place [part] = .error .missing) :
    Proper part ∧ t.node? place = some .folder ∧ t.node? (place ++ [part]) = none := by
  rw [walk_cons] at missing
  split at missing
  · next folder =>
    split at missing
    · cases missing
    · next other =>
      split at missing
      · cases missing
      · next down =>
        split at missing
        · cases missing
        · next short =>
          split at missing
          · cases missing
          · next vacant =>
            exact ⟨⟨other, down, by simpa using short⟩, folder, by simpa using vacant⟩
  · cases missing

/-- A name that leads nowhere, although what is above it is there, ends in a part of its own that
is not in its folder. -/
theorem Grounded.missing_cases (grounded : t.Grounded) (missing : t.locate n = .error .missing)
    (free : t.placeFor n = .ok place) :
    ∃ front part, place = front ++ [part] ∧ t.node? front = some .folder ∧
      t.node? place = none ∧ ∀ u, t.Extends u → (u.node? place).isSome = true →
        u.locate n = .ok place := by
  obtain ⟨front, led, same⟩ := bind_eq_ok.mp free
  obtain rfl := Except.ok.inj same
  have there := grounded.walk_there (by rw [grounded.start n]; rfl) led
  unfold locate at missing
  split at missing
  · cases missing
  · next short =>
    rcases List.eq_nil_or_concat n.parts with none' | ⟨init, part, parts⟩
    · rw [none'] at missing
      cases missing
    · rw [List.concat_eq_append] at parts
      have last : n.last = part := by
        simp [FileName.last, parts]
      rw [parts, List.dropLast_concat] at led
      rw [parts, walk_append, led] at missing
      obtain ⟨proper, folder, vacant⟩ := proper_of_missing there missing
      rw [last]
      refine ⟨front, part, rfl, folder, vacant, fun u more there => ?_⟩
      have start : u.start n = t.start n := by
        unfold FileTree.start
        rw [more.home]
      rw [locate, if_neg short, start, parts, walk_append, walk_extends more led]
      exact walk_proper proper (more.folder front folder) there

/-- A name that leads nowhere, although its folder is there, has a place of its own to fill. -/
theorem Grounded.entered (grounded : t.Grounded) (missing : t.locate n = .error .missing)
    (free : t.placeFor n = .ok place) (node : Node) :
    t.Entered (t.put place node) n place node ∧ t.node? place = none := by
  obtain ⟨front, part, rfl, folder, none', leads⟩ := grounded.missing_cases missing free
  have vacant : t.node? (front ++ [part]) ≠ some .folder := by
    rw [none']
    nofun
  have below : front ++ [part] ≠ [] := by simp
  have more := extends_put node below vacant
  refine ⟨⟨rfl, below, leads _ more ?_, vacant, more, grounded.put folder vacant⟩, none'⟩
  rw [node?_put t _ _ node below, if_pos rfl]
  rfl

end Quire.FileTree
