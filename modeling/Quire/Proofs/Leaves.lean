import Quire.Path
import Quire.Proofs.Sameness

/-! The leaves of nested lists. A list is flattened to the values at those places within it that
are no lists, in the order of the places. -/

namespace Quire.Path

variable {v w : Value} {xs ys : List Value}

/-- The value at a place within a value: by its number in a list, its number in the list at that
number, and so on. -/
def item? : List Nat → Value → Option Value
  | [], v => some v
  | i :: place, .list xs => xs[i]?.bind (item? place)
  | _ :: _, _ => none

/-- Values are the leaves of a list if they are what is at those places in it where no list is,
one place after the other. -/
def LeavesOf (xs ys : List Value) : Prop :=
  ∃ places : List (List Nat), places.Pairwise (· < ·) ∧
    (∀ place, place ∈ places ↔ ∃ v, item? place (.list xs) = some v ∧ v.kind ≠ .list) ∧
    ys.map some = places.map fun place => item? place (.list xs)

mutual

/-- The places of a value's leaves, depth first. -/
def leafPlaces : Value → List (List Nat)
  | .list xs => leafPlacesFrom 0 xs
  | _ => [[]]

def leafPlacesFrom (i : Nat) : List Value → List (List Nat)
  | [] => []
  | x :: xs => (leafPlaces x).map (i :: ·) ++ leafPlacesFrom (i + 1) xs

end

theorem flatten_eq_flatMap (xs : List Value) : flatten xs = xs.flatMap flattenValue := by
  induction xs with
  | nil => rfl
  | cons x xs ih => rw [flatten, ih, List.flatMap_cons]

theorem leafPlacesFrom_eq (i : Nat) (xs : List Value) :
    leafPlacesFrom i xs = (xs.zipIdx i).flatMap fun e => (leafPlaces e.1).map (e.2 :: ·) := by
  induction xs generalizing i with
  | nil => rfl
  | cons x xs ih => rw [leafPlacesFrom, ih, List.zipIdx_cons, List.flatMap_cons]

theorem leafPlaces_list (xs : List Value) :
    leafPlaces (.list xs) = xs.zipIdx.flatMap fun e => (leafPlaces e.1).map (e.2 :: ·) :=
  leafPlacesFrom_eq 0 xs

/-- A value is a list or its own only leaf. -/
theorem list_or_leaf (v : Value) :
    (∃ xs, v = .list xs) ∨
      v.list? = none ∧ flattenValue v = [v] ∧ leafPlaces v = [[]] ∧
        ∀ i place, item? (i :: place) v = none := by
  cases v with
  | list xs => exact .inl ⟨xs, rfl⟩
  | _ => exact .inr ⟨rfl, rfl, rfl, fun _ _ => rfl⟩

/-- Places are gone through from left to right. -/
theorem leafPlaces_sorted (v : Value) : (leafPlaces v).Pairwise (· < ·) := by
  induction v using Value.byParts with
  | step v ih =>
    rcases list_or_leaf v with ⟨xs, rfl⟩ | ⟨_, _, single, _⟩
    · rw [leafPlaces_list, List.pairwise_flatMap]
      constructor
      · intro e inside
        refine List.pairwise_map.mpr ((ih e.1 (List.fst_mem_of_mem_zipIdx inside)).imp ?_)
        exact fun before => List.cons_lt_cons_iff.mpr (.inr ⟨rfl, before⟩)
      · have numbered : xs.zipIdx.Pairwise fun e later => e.2 < later.2 := by
          rw [← List.pairwise_map, List.zipIdx_map_snd]
          exact List.pairwise_lt_range'
        refine numbered.imp fun before p there q later => ?_
        obtain ⟨_, _, rfl⟩ := List.mem_map.mp there
        obtain ⟨_, _, rfl⟩ := List.mem_map.mp later
        exact List.cons_lt_cons_iff.mpr (.inl before)
    · rw [single]
      exact List.pairwise_singleton _ _

theorem mem_leafPlaces (v : Value) (place : List Nat) :
    place ∈ leafPlaces v ↔ ∃ w, item? place v = some w ∧ w.list? = none := by
  induction v using Value.byParts generalizing place with
  | step v ih =>
    rcases list_or_leaf v with ⟨xs, rfl⟩ | ⟨leaf, _, single, beyond⟩
    · rw [leafPlaces_list, List.mem_flatMap]
      cases place with
      | nil => simp [item?, Value.list?]
      | cons i place =>
        constructor
        · rintro ⟨⟨x, j⟩, inside, there⟩
          obtain ⟨rest, leaf, same⟩ := List.mem_map.mp there
          obtain ⟨rfl, rfl⟩ := List.cons.inj same
          obtain ⟨w, found, leaf⟩ := (ih x (List.fst_mem_of_mem_zipIdx inside) _).mp leaf
          refine ⟨w, ?_, leaf⟩
          rw [item?, List.mem_zipIdx_iff_getElem?.mp inside, Option.bind_some, found]
        · rintro ⟨w, found, leaf⟩
          obtain ⟨x, there, found⟩ := Option.bind_eq_some_iff.mp found
          refine ⟨(x, i), List.mem_zipIdx_iff_getElem?.mpr there, List.mem_map_of_mem ?_⟩
          exact (ih x (List.mem_of_getElem? there) _).mpr ⟨w, found, leaf⟩
    · rw [single, List.mem_singleton]
      cases place with
      | nil => simp [item?, leaf]
      | cons i place => simp [beyond]

/-- What a value is flattened to is what is at the places of its leaves. -/
theorem flattenValue_eq (v : Value) :
    (flattenValue v).map some = (leafPlaces v).map (item? · v) := by
  induction v using Value.byParts with
  | step v ih =>
    rcases list_or_leaf v with ⟨xs, rfl⟩ | ⟨_, whole, single, _⟩
    · have numbered : flatten xs = xs.zipIdx.flatMap fun e => flattenValue e.1 := by
        conv_lhs => rw [flatten_eq_flatMap, ← List.zipIdx_map_fst 0 xs, List.flatMap_map]
      rw [flattenValue, numbered, leafPlaces_list, List.map_flatMap, List.map_flatMap]
      refine List.flatMap_congr fun e inside => ?_
      rw [ih e.1 (List.fst_mem_of_mem_zipIdx inside), List.map_map]
      refine List.map_congr_left fun place _ => ?_
      rw [Function.comp, item?, List.mem_zipIdx_iff_getElem?.mp inside, Option.bind_some]
    · rw [whole, single]
      rfl

/-! ### Lists that have an end -/

theorem anyEndless_eq_any (xs : List Value) : anyEndless xs = xs.any isEndless := by
  induction xs with
  | nil => rfl
  | cons x xs ih => rw [anyEndless, ih, List.any_cons]

/-- Of a value that has an end only the lists are lists. -/
theorem kind_ne_list (ended : isEndless v = false) : v.kind ≠ .list ↔ v.list? = none := by
  cases v with
  | cycle mapping =>
    cases mapping with
    | true => exact ⟨fun _ => rfl, fun _ => nofun⟩
    | false => cases ended
  | list xs => exact ⟨fun other => absurd rfl other, nofun⟩
  | _ => exact ⟨fun _ => rfl, fun _ => nofun⟩

theorem isEndless_item? {place : List Nat} (found : item? place v = some w)
    (ended : isEndless v = false) : isEndless w = false := by
  induction place generalizing v with
  | nil =>
    obtain rfl := Option.some.inj found
    exact ended
  | cons i place ih =>
    cases v with
    | list xs =>
      obtain ⟨x, there, found⟩ := Option.bind_eq_some_iff.mp found
      rw [isEndless, anyEndless_eq_any, List.any_eq_false] at ended
      exact ih found (by simpa using ended x (List.mem_of_getElem? there))
    | _ => cases found

/-- The values of a flattened list are the leaves of the list. -/
theorem leavesOf_flatten (ended : isEndless (.list xs) = false) : LeavesOf xs (flatten xs) := by
  refine ⟨leafPlaces (.list xs), leafPlaces_sorted _, fun place => ?_, ?_⟩
  · rw [mem_leafPlaces]
    refine exists_congr fun v => and_congr_right fun found => ?_
    exact (kind_ne_list (isEndless_item? found ended)).symm
  · have whole := flattenValue_eq (.list xs)
    rwa [flattenValue] at whole

theorem list?_of_mem_flattenValue (inside : w ∈ flattenValue v) : w.list? = none := by
  have shown : some w ∈ (leafPlaces v).map (item? · v) :=
    flattenValue_eq v ▸ List.mem_map_of_mem inside
  obtain ⟨place, there, found⟩ := List.mem_map.mp shown
  obtain ⟨w', found', leaf⟩ := (mem_leafPlaces v place).mp there
  exact Option.some.inj (found.symm.trans found') ▸ leaf

/-- There is no list in a flattened list. -/
theorem list?_of_mem_flatten (inside : w ∈ flatten xs) : w.list? = none :=
  @list?_of_mem_flattenValue (.list xs) w (by rwa [flattenValue])

theorem flatten_flatten (xs : List Value) : flatten (flatten xs) = flatten xs := by
  rw [flatten_eq_flatMap (flatten xs)]
  refine (List.flatMap_congr fun v inside => ?_).trans (List.flatMap_singleton' _)
  rcases list_or_leaf v with ⟨ys, rfl⟩ | ⟨_, whole, _⟩
  · cases list?_of_mem_flatten inside
  · exact whole

theorem any_isEndless_flattenValue (v : Value) : (flattenValue v).any isEndless = isEndless v := by
  induction v using Value.byParts with
  | step v ih =>
    rcases list_or_leaf v with ⟨xs, rfl⟩ | ⟨_, whole, _⟩
    · rw [flattenValue, flatten_eq_flatMap, List.any_flatMap, isEndless, anyEndless_eq_any]
      rw [Bool.eq_iff_iff, List.any_eq_true, List.any_eq_true]
      exact exists_congr fun x => and_congr_right fun inside => by rw [ih x inside]
    · rw [whole, List.any_cons, List.any_nil, Bool.or_false]

theorem kind_of_mem_flatten (ended : isEndless (.list xs) = false) (inside : w ∈ flatten xs) :
    w.kind ≠ .list := by
  have none := any_isEndless_flattenValue (.list xs)
  rw [flattenValue, ended, List.any_eq_false] at none
  exact (kind_ne_list (by simpa using none w inside)).mpr (list?_of_mem_flatten inside)

end Quire.Path
