import Mathlib.Order.Comparable
import Quire.Proofs.Writing

/-! Changing the value at the end of a path where there is one. Unlike writing this makes no way
to it, so that every mapping keeps its keys and their order. Changes at different places come to
the same in either order if they leave mappings as they are. -/

namespace Quire

theorem Value.map?_eq_some {v : Value} {es : Entries} : v.map? = some es ↔ v = .map es := by
  cases v <;> simp [map?]

namespace Entries

variable {es : Entries} {name other : String} {v : Value}

/-- The entry of a name with its value changed. -/
def alterField (f : Value → Value) (name : String) : Entries → Entries
  | [] => []
  | (k, v) :: es => if k.same (.str name) then (k, f v) :: es else (k, v) :: alterField f name es

theorem field?_alterField_self (f : Value → Value) (name : String) (es : Entries) :
    field? (alterField f name es) name = (field? es name).map f := by
  induction es with
  | nil => rfl
  | cons e es ih =>
    obtain ⟨k, v⟩ := e
    simp only [field?, get?_cons, alterField] at ih ⊢
    split
    · next here => rw [get?_cons, if_pos here, Option.map_some]
    · next here => rw [get?_cons, if_neg here, ih]

theorem field?_alterField_of_ne (f : Value → Value) (ne : name ≠ other) (es : Entries) :
    field? (alterField f name es) other = field? es other := by
  induction es with
  | nil => rfl
  | cons e es ih =>
    obtain ⟨k, v⟩ := e
    simp only [field?, get?_cons, alterField] at ih ⊢
    split
    · next here =>
      have apart : ¬k.same (.str other) := by
        rw [(Value.same_str k name).mp here, Value.same_str]
        simpa using ne
      rw [get?_cons, if_neg apart, if_neg apart]
    · rw [get?_cons, ih]

theorem alterField_of_none (none : field? es name = none) (f : Value → Value) :
    alterField f name es = es := by
  induction es with
  | nil => rfl
  | cons e es ih =>
    obtain ⟨k, v⟩ := e
    simp only [field?, get?_cons, alterField] at ih none ⊢
    split at none
    · cases none
    · next here => rw [if_neg here, ih none]

theorem alterField_of_some (found : field? es name = some v) (f : Value → Value) :
    alterField f name es = putField es name (f v) := by
  induction es with
  | nil => cases found
  | cons e es ih =>
    obtain ⟨k, w⟩ := e
    simp only [field?, get?_cons, alterField, putField, put] at ih found ⊢
    split at found
    · next here =>
      obtain rfl := Option.some.inj found
      rw [if_pos here, if_pos here]
    · next here => rw [if_neg here, if_neg here, ih found]

theorem alterField_alterField (f g : Value → Value) (name : String) (es : Entries) :
    alterField f name (alterField g name es) = alterField (f ∘ g) name es := by
  induction es with
  | nil => rfl
  | cons e es ih =>
    obtain ⟨k, v⟩ := e
    by_cases here : k.same (.str name) <;> simp [alterField, here, ih]

theorem alterField_comm (f g : Value → Value) (ne : name ≠ other) (es : Entries) :
    alterField f name (alterField g other es) = alterField g other (alterField f name es) := by
  induction es with
  | nil => rfl
  | cons e es ih =>
    obtain ⟨k, v⟩ := e
    by_cases here : k.same (.str name)
    · obtain rfl := (Value.same_str k name).mp here
      simp [alterField, ne]
    · by_cases there : k.same (.str other) <;> simp [alterField, here, there, ih]

end Entries

namespace Path

open Schema.Pointer (descend)

variable {f g : Value → Value} {es : Entries} {ks ls : List String} {v w : Value}

/-- A value with the one at the end of a path changed, if there is one. -/
def alter (f : Value → Value) : List String → Value → Value
  | [], v => f v
  | k :: ks, .map es => .map (Entries.alterField (fun w => alter f ks w) k es)
  | _ :: _, v => v

theorem alter_cons_map (f : Value → Value) (k : String) (ks : List String) (es : Entries) :
    alter f (k :: ks) (.map es) = .map (Entries.alterField (alter f ks) k es) := rfl

/-- What is at the end of a path is changed as if the result were written there. -/
theorem alter_of_descend (found : descend ks (.map es) = some v) (some : ks ≠ [])
    (f : Value → Value) : alter f ks (.map es) = .map (write es ks (f v)) := by
  induction ks generalizing es with
  | nil => exact absurd rfl some
  | cons k ks ih =>
    obtain ⟨w, there, found⟩ := Option.bind_eq_some_iff.mp found
    rw [alter_cons_map, Entries.alterField_of_some there]
    cases ks with
    | nil =>
      obtain rfl := Option.some.inj found
      rfl
    | cons k' ks =>
      have more := List.cons_ne_nil k' ks
      cases w with
      | map fs => rw [ih found more, write_cons es k more, there, inner]
      | _ => cases found

theorem alter_of_none (none : descend ks v = none) (f : Value → Value) : alter f ks v = v := by
  induction ks generalizing v with
  | nil => cases none
  | cons k ks ih =>
    cases v with
    | map es =>
      rw [alter_cons_map]
      cases there : Entries.field? es k with
      | none => rw [Entries.alterField_of_none there]
      | some w =>
        have below : descend ks w = .none := by
          rw [descend, there] at none
          exact none
        rw [Entries.alterField_of_some there, ih below, Entries.putField_field? there]
    | _ => rfl

theorem descend_alter_self (f : Value → Value) (ks : List String) (v : Value) :
    descend ks (alter f ks v) = (descend ks v).map f := by
  induction ks generalizing v with
  | nil => rfl
  | cons k ks ih =>
    cases v with
    | map es =>
      rw [alter_cons_map, descend, descend, Entries.field?_alterField_self]
      cases Entries.field? es k with
      | none => rfl
      | some w => exact ih w
    | _ => rfl

theorem alter_of_not_map (other : v.map? = none) (f : Value → Value) (k : String)
    (ks : List String) : alter f (k :: ks) v = v := by
  cases v with
  | map es => cases other
  | _ => rfl

theorem descend_of_not_map (other : v.map? = none) (k : String) (ks : List String) :
    descend (k :: ks) v = none := by
  cases v with
  | map es => cases other
  | _ => rfl

/-- A change that leaves mappings as they are and makes none. -/
structure Shallow (f : Value → Value) : Prop where
  map : ∀ es, f (.map es) = .map es
  other : ∀ v, v.map? = none → (f v).map? = none

section Shallow

variable (shallow : Shallow f)
include shallow

theorem Shallow.alter_comm_top (ks : List String) (v : Value) :
    f (alter f ks v) = alter f ks (f v) := by
  cases ks with
  | nil => rfl
  | cons k ks =>
    cases is : v.map? with
    | some es =>
      obtain rfl := Value.map?_eq_some.mp is
      rw [alter_cons_map, shallow.map, shallow.map, alter_cons_map]
    | none => rw [alter_of_not_map is, alter_of_not_map (shallow.other v is)]

/-- Changes at two places may be made in either order. -/
theorem Shallow.alter_comm (ks ls : List String) (v : Value) :
    alter f ks (alter f ls v) = alter f ls (alter f ks v) := by
  induction ks generalizing ls v with
  | nil => exact shallow.alter_comm_top ls v
  | cons k ks ih =>
    cases ls with
    | nil => exact (shallow.alter_comm_top (k :: ks) v).symm
    | cons l ls =>
      cases v with
      | map es =>
        simp only [alter_cons_map]
        by_cases same : k = l
        · subst same
          rw [Entries.alterField_alterField, Entries.alterField_alterField]
          have swap : alter f ks ∘ alter f ls = alter f ls ∘ alter f ks := funext (ih ls)
          rw [swap]
        · rw [Entries.alterField_comm _ _ same]
      | _ => rfl

/-- Elsewhere than at the place of the change there is what there was, or a mapping where there
was one. -/
theorem Shallow.descend_alter_elsewhere (elsewhere : ls ≠ ks) (v : Value) :
    descend ls (alter f ks v) = descend ls v ∨ ∃ es fs,
      descend ls v = some (.map es) ∧ descend ls (alter f ks v) = some (.map fs) := by
  induction ks generalizing ls v with
  | nil =>
    cases ls with
    | nil => exact absurd rfl elsewhere
    | cons l ls =>
      left
      cases is : v.map? with
      | some es =>
        obtain rfl := Value.map?_eq_some.mp is
        rw [alter, shallow.map]
      | none =>
        rw [alter, descend_of_not_map is, descend_of_not_map (shallow.other v is)]
  | cons k ks ih =>
    cases v with
    | map es =>
      rw [alter_cons_map]
      cases ls with
      | nil => exact .inr ⟨_, _, rfl, rfl⟩
      | cons l ls =>
        rw [descend, descend]
        by_cases same : k = l
        · subst same
          rw [Entries.field?_alterField_self]
          cases Entries.field? es k with
          | none => exact .inl rfl
          | some w => exact ih (fun same => elsewhere (same ▸ rfl)) w
        · rw [Entries.field?_alterField_of_ne _ same]
          exact .inl rfl
    | _ => exact .inl rfl

end Shallow

theorem alter_alter (settled : ∀ v, f (f v) = f v) (ks : List String) (v : Value) :
    alter f ks (alter f ks v) = alter f ks v := by
  induction ks generalizing v with
  | nil => exact settled v
  | cons k ks ih =>
    cases v with
    | map es =>
      have same : alter f ks ∘ alter f ks = alter f ks := funext ih
      rw [alter_cons_map, alter_cons_map, Entries.alterField_alterField, same]
    | _ => rfl

/-! ### Paths that part from the place of a change -/

section Parting

variable {segments : List Segment}

theorem parts_of_cons {k : String} {s : Segment}
    (parts : IncompRel List.IsPrefix ((s :: segments).map (·.key)) (k :: ks)) (same : k = s.key) :
    IncompRel List.IsPrefix (segments.map (·.key)) ks := by
  subst same
  exact ⟨fun h => parts.1 (List.prefix_cons_inj _ |>.mpr h),
    fun h => parts.2 (List.prefix_cons_inj _ |>.mpr h)⟩

theorem elements?_alter (f : Value → Value) (k : String) (ks : List String) (v : Value) :
    (alter f (k :: ks) v).elements? = v.elements? := by
  cases v <;> rfl

/-- A path that parts from the place of a change reaches what it did. -/
theorem reach_alter (parts : IncompRel List.IsPrefix (segments.map (·.key)) ks)
    (f : Value → Value) (v : Value) : reach [alter f ks v] segments = reach [v] segments := by
  induction segments generalizing ks v with
  | nil => exact absurd List.nil_prefix parts.1
  | cons s segments ih =>
    cases ks with
    | nil => exact absurd List.nil_prefix parts.2
    | cons k ks =>
      cases v with
      | map es =>
        rw [alter_cons_map, reach, reach, List.flatMap_singleton, List.flatMap_singleton]
        by_cases same : k = s.key
        · have onward := parts_of_cons parts same
          subst same
          simp only [step, Entries.field?_alterField_self]
          cases Entries.field? es s.key with
          | none => rfl
          | some w =>
            cases expands : s.expand with
            | false => simpa [expands] using ih onward w
            | true =>
              cases ks with
              | nil => exact absurd List.nil_prefix onward.2
              | cons k' ks => simp [elements?_alter]
        · simp only [step, Entries.field?_alterField_of_ne _ same]
      | _ => rfl

theorem lookup_alter (parts : IncompRel List.IsPrefix (segments.map (·.key)) ks)
    (p : String) (f : Value → Value) (v : Value) :
    lookup p (alter f ks v) segments = lookup p v segments := by
  induction segments generalizing ks v with
  | nil => exact absurd List.nil_prefix parts.1
  | cons s segments ih =>
    cases ks with
    | nil => exact absurd List.nil_prefix parts.2
    | cons k ks =>
      cases v with
      | map es =>
        rw [alter_cons_map, lookup, lookup]
        by_cases same : k = s.key
        · have onward := parts_of_cons parts same
          subst same
          simp only [Entries.field?_alterField_self]
          cases Entries.field? es s.key with
          | none => rfl
          | some w => simp only [Option.map_some, ih onward w]
        · simp only [Entries.field?_alterField_of_ne _ same]
      | _ => rfl

end Parting

end Path
end Quire
