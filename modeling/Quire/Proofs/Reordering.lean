import Mathlib.Data.List.Nodup
import Mathlib.Logic.Relation
import Mathlib.Order.Comparable
import Quire.Proofs.Writing

/-! Lists written at several places, of which none lies above another. Each is found at its
place in the end, and in which order they are written only matters for the order of keys. -/

namespace Quire

namespace Entries

variable {es fs : Entries} {name : String}

/-- A name leads past an entry, whatever is in it, or to that entry. -/
theorem name_past_or_at (front : Entries) (k : Value) (back : Entries) (name : String) :
    (∃ found, (∀ v, field? (front ++ (k, v) :: back) name = found) ∧
      ∀ w, ∃ front' back', ∀ v,
        putField (front ++ (k, v) :: back) name w = front' ++ (k, v) :: back') ∨
    ∀ v, field? (front ++ (k, v) :: back) name = some v ∧
      ∀ w, putField (front ++ (k, v) :: back) name w = front ++ (k, w) :: back := by
  induction front with
  | nil =>
    simp only [List.nil_append, putField, put, field?, get?_cons]
    by_cases here : k.same (.str name)
    · exact .inr fun v => ⟨if_pos here, fun w => if_pos here⟩
    · refine .inl ⟨get? back (.str name), fun v => if_neg here, fun w => ?_⟩
      exact ⟨[], put back (.str name) w, fun v => if_neg here⟩
  | cons e front ih =>
    obtain ⟨k', v'⟩ := e
    simp only [List.cons_append, putField, put, field?, get?_cons] at ih ⊢
    by_cases before : k'.same (.str name)
    · refine .inl ⟨some v', fun v => if_pos before, fun w => ?_⟩
      exact ⟨(k', w) :: front, back, fun v => if_pos before⟩
    · rcases ih with ⟨found, found', past⟩ | there
      · refine .inl ⟨found, fun v => (if_neg before).trans (found' v), fun w => ?_⟩
        obtain ⟨front', back', put⟩ := past w
        refine ⟨(k', v') :: front', back', fun v => ?_⟩
        rw [if_neg before, put, List.cons_append]
      · refine .inr fun v => ⟨(if_neg before).trans (there v).1, fun w => ?_⟩
        rw [if_neg before, (there v).2]

theorem nodup_keysWith (nodup : (keys es).Nodup) (name : String) : (keysWith es name).Nodup := by
  unfold keysWith
  split
  · exact nodup
  · next new =>
    refine nodup.append (List.nodup_singleton _) (List.disjoint_singleton.mpr fun inside => ?_)
    obtain ⟨e, among, key⟩ := List.mem_map.mp inside
    exact new (List.any_eq_true.mpr ⟨e, among, (Value.same_str e.1 name).mpr key⟩)

/-- Where no key is twice, two entries are not under one name. -/
theorem not_same_of_nodup {e e' : Value × Value} (nodup : (keys (e' :: e :: es)).Nodup)
    (name : String) (here : e'.1.same (.str name)) : ¬e.1.same (.str name) := by
  rw [Value.same_str] at here ⊢
  intro there
  have same : e'.1 = e.1 := here.trans there.symm
  exact (List.nodup_cons.mp nodup).1 (List.mem_map.mpr ⟨e, List.mem_cons_self, same.symm⟩)

/-- In another order the same is found under a name. -/
theorem field?_perm (perm : es.Perm fs) (nodup : (keys es).Nodup) (name : String) :
    field? es name = field? fs name := by
  induction perm with
  | nil => rfl
  | cons e _ ih =>
    obtain ⟨k, v⟩ := e
    simp only [field?, get?_cons] at ih ⊢
    rw [ih nodup.of_cons]
  | swap e e' es =>
    have apart := not_same_of_nodup nodup name
    obtain ⟨k, v⟩ := e
    obtain ⟨k', v'⟩ := e'
    simp only [field?, get?_cons]
    split
    · next here => rw [if_neg (apart here)]
    · rfl
  | trans first _ ih ih' =>
    rw [ih nodup, ih' ((first.map Prod.fst).nodup_iff.mp nodup)]

theorem putField_congr_perm (perm : es.Perm fs) (nodup : (keys es).Nodup) (name : String)
    (v : Value) : (putField es name v).Perm (putField fs name v) := by
  induction perm with
  | nil => exact .refl _
  | cons e perm ih =>
    simp only [putField, put] at ih ⊢
    split
    · exact perm.cons _
    · exact (ih nodup.of_cons).cons _
  | swap e e' es =>
    have apart := not_same_of_nodup nodup name
    simp only [putField, put]
    split
    · next here =>
      rw [if_neg (apart here)]
      exact .swap _ _ _
    · split <;> exact .swap _ _ _
  | trans first _ ih ih' =>
    exact (ih nodup).trans (ih' ((first.map Prod.fst).nodup_iff.mp nodup))

end Entries

namespace Path

open Schema.Pointer (descend)
open Entries (Reordered keysWith)
open Relation (ReflTransGen)

variable {es fs : Entries} {ks ls : List String}

/-- In no mapping that is found on any way a key is there twice. -/
def Tidy (es : Entries) : Prop :=
  ∀ ls fs, descend ls (.map es) = some (.map fs) → (Entries.keys fs).Nodup

theorem tidy_nil : Tidy [] := by
  intro ls fs found
  cases ls with
  | nil =>
    obtain rfl := Value.map.inj (Option.some.inj found)
    exact List.nodup_nil
  | cons l ls => cases found

theorem Tidy.inner (tidy : Tidy es) (k : String) : Tidy (inner (Entries.field? es k)) := by
  unfold Path.inner
  split
  · next gs there =>
    intro ls fs found
    refine tidy (k :: ls) fs ?_
    rw [descend, there]
    exact found
  · exact tidy_nil

theorem descend_list {xs : List Value} {fs : Entries} :
    descend ls (.list xs) ≠ some (.map fs) := by
  cases ls <;> exact nofun

theorem Tidy.write (tidy : Tidy es) (ks : List String) (xs : List Value) :
    Tidy (write es ks (.list xs)) := by
  induction ks generalizing es with
  | nil => exact tidy
  | cons k ks ih =>
    intro ls fs found
    cases ls with
    | nil =>
      obtain rfl := Value.map.inj (Option.some.inj found)
      exact keys_write es k ks _ ▸ Entries.nodup_keysWith (tidy [] es rfl) k
    | cons l ls =>
      by_cases same : k = l
      · subst same
        cases ks with
        | nil =>
          rw [Path.write, descend, Entries.field?_putField_self] at found
          exact absurd found descend_list
        | cons k' ks =>
          rw [write_cons es k (List.cons_ne_nil k' ks), descend,
            Entries.field?_putField_self] at found
          exact ih (tidy.inner k) ls fs found
      · refine tidy (l :: ls) fs ?_
        obtain ⟨v, put⟩ : ∃ v, Path.write es (k :: ks) (.list xs) = Entries.putField es k v := by
          cases ks <;> exact ⟨_, rfl⟩
        rwa [put, descend, Entries.field?_putField_of_ne es same] at found

/-- Writing goes by what is under the first name. -/
theorem write_cons_field? (k : String) (ks : List String) (v : Value) :
    ∃ below : Option Value → Value,
      ∀ es, write es (k :: ks) v = Entries.putField es k (below (Entries.field? es k)) := by
  cases ks with
  | nil => exact ⟨fun _ => v, fun _ => rfl⟩
  | cons k' ks => exact ⟨fun found => .map (write (inner found) (k' :: ks) v), fun _ => rfl⟩

/-- What is the same but for the order of keys stays so when the same is written into it. -/
theorem write_congr (h : Reordered es fs) (tidy : Tidy es) (ks : List String) (v : Value) :
    Reordered (write es ks v) (write fs ks v) := by
  induction h generalizing ks with
  | here perm =>
    cases ks with
    | nil => exact .here perm
    | cons k ks =>
      obtain ⟨below, written⟩ := write_cons_field? k ks v
      have nodup := tidy [] _ rfl
      rw [written, written, ← Entries.field?_perm perm nodup]
      exact .here (Entries.putField_congr_perm perm nodup k _)
  | @within es fs front k' back inside ih =>
    cases ks with
    | nil => exact .within front k' back inside
    | cons k ks =>
      rcases Entries.name_past_or_at front k' back k with ⟨found, past, puts⟩ | at'
      · obtain ⟨below, written⟩ := write_cons_field? k ks v
        obtain ⟨front', back', put⟩ := puts (below found)
        rw [written, written, past, past, put, put]
        exact .within front' k' back' inside
      · cases ks with
        | nil =>
          rw [write, write, (at' _).2, (at' _).2]
          exact .here (.refl _)
        | cons k'' ks =>
          have some := List.cons_ne_nil k'' ks
          have tidy' := tidy.inner k
          rw [(at' _).1] at tidy'
          rw [write_cons _ k some, write_cons _ k some, (at' _).1, (at' _).1, (at' _).2, (at' _).2]
          exact .within front k' back (ih tidy' _)

/-- Lists written one after the other, each at a place of its own. -/
def writeLists (es : Entries) (ws : List (List String × List Value)) : Entries :=
  ws.foldl (fun es w => write es w.1 (.list w.2)) es

variable {ws vs : List (List String × List Value)}

theorem writeLists_congr (h : Reordered es fs) (tidy : Tidy es)
    (ws : List (List String × List Value)) : Reordered (writeLists es ws) (writeLists fs ws) := by
  induction ws generalizing es fs with
  | nil => exact h
  | cons w ws ih => exact ih (write_congr h tidy w.1 _) (tidy.write w.1 w.2)

/-- No place lies above another, nor at it. -/
def Scattered (ws : List (List String × List Value)) : Prop :=
  ws.Pairwise fun w w' => IncompRel List.IsPrefix w.1 w'.1

theorem Scattered.perm (apart : Scattered ws) (perm : ws.Perm vs) : Scattered vs :=
  (perm.pairwise_iff IncompRel.symm).mp apart

theorem descend_writeLists_apart (beside : ∀ w ∈ ws, IncompRel List.IsPrefix w.1 ls)
    (es : Entries) : descend ls (.map (writeLists es ws)) = descend ls (.map es) := by
  induction ws generalizing es with
  | nil => rfl
  | cons w ws ih =>
    obtain ⟨⟨up, down⟩, others⟩ := List.forall_mem_cons.mp beside
    exact (ih others _).trans (descend_write_apart es up down _)

theorem descend_writeLists (apart : Scattered ws) {w : List String × List Value} (inside : w ∈ ws)
    (some : w.1 ≠ []) (es : Entries) :
    descend w.1 (.map (writeLists es ws)) = Option.some (.list w.2) := by
  induction ws generalizing es with
  | nil => cases inside
  | cons w' ws ih =>
    obtain ⟨first, apart⟩ := List.pairwise_cons.mp apart
    rcases List.mem_cons.mp inside with rfl | later
    · refine (descend_writeLists_apart (fun w' later => (first w' later).symm) _).trans ?_
      exact descend_write_self es some _
    · exact ih apart later _

/-- In another order the same comes of it but for the order of keys. -/
theorem writeLists_perm (perm : ws.Perm vs) (apart : Scattered ws) (tidy : Tidy es) :
    ReflTransGen Reordered (writeLists es ws) (writeLists es vs) := by
  induction perm generalizing es with
  | nil => exact .refl
  | cons w _ ih => exact ih (List.pairwise_cons.mp apart).2 (tidy.write w.1 w.2)
  | swap w w' ws =>
    obtain ⟨up, down⟩ := (List.pairwise_cons.mp apart).1 w List.mem_cons_self
    have swapped := write_reordered es up down (.list w'.2) (.list w.2)
    exact .single (writeLists_congr swapped ((tidy.write w'.1 w'.2).write w.1 w.2) ws)
  | trans first _ ih ih' => exact (ih apart tidy).trans (ih' (apart.perm first) tidy)

end Path
end Quire
