import Quire.Proofs.Frame

/-! What can be read after a value was written at a path, and what further writes come
to. Nothing is assumed of the data: what is no mapping on the way gives way to one. -/

namespace Quire

namespace Entries

/-- The keys of a mapping once something is written under a name. -/
def keysWith (es : Entries) (name : String) : List Value :=
  if has es (.str name) then keys es else keys es ++ [.str name]

theorem keys_putField (es : Entries) (name : String) (v : Value) :
    keys (putField es name v) = keysWith es name := keys_put es (.str name) v

/-- The place of a name is the same whatever is written there. -/
theorem putField_place (es : Entries) (name : String) :
    ∃ front back, ∀ v, putField es name v = front ++ (.str name, v) :: back := by
  induction es with
  | nil => exact ⟨[], [], fun _ => rfl⟩
  | cons e es ih =>
    obtain ⟨k, old⟩ := e
    by_cases here : k.same (.str name)
    · obtain rfl := (Value.same_str k name).mp here
      exact ⟨[], es, fun v => by simp [putField, put, here]⟩
    · obtain ⟨front, back, placed⟩ := ih
      refine ⟨(k, old) :: front, back, fun v => ?_⟩
      rw [List.cons_append, ← placed v]
      simp [putField, put, here]

theorem putField_putField (es : Entries) (name : String) (v w : Value) :
    putField (putField es name v) name w = putField es name w := by
  induction es with
  | nil => simp [putField, put]
  | cons e es ih =>
    obtain ⟨k, old⟩ := e
    simp only [putField] at ih ⊢
    by_cases here : k.same (.str name) <;> simp [put, here, ih]

theorem putField_field? {es : Entries} {name : String} {v : Value}
    (found : field? es name = some v) : putField es name v = es := by
  induction es with
  | nil => cases found
  | cons e es ih =>
    obtain ⟨k, old⟩ := e
    simp only [putField, field?, get?_cons] at ih found ⊢
    by_cases here : k.same (.str name)
    · rw [if_pos here] at found
      obtain rfl := Option.some.inj found
      simp only [put, here, if_true]
    · rw [if_neg here] at found
      simp only [put, here, Bool.false_eq_true, if_false, ih found]

/-- Under two names it only matters for the order of new keys which is written first. -/
theorem putField_perm (es : Entries) {name other : String} (ne : name ≠ other) (v w : Value) :
    (putField (putField es name v) other w).Perm (putField (putField es other w) name v) := by
  induction es with
  | nil =>
    simp only [putField, put, Value.same_str, Value.str.injEq, ne, ne.symm, if_false]
    exact .swap _ _ _
  | cons e es ih =>
    obtain ⟨k, old⟩ := e
    simp only [putField] at ih ⊢
    by_cases here : k.same (.str name)
    · obtain rfl := (Value.same_str k name).mp here
      simp [put, ne]
    · by_cases there : k.same (.str other)
      · obtain rfl := (Value.same_str k other).mp there
        simp [put, ne.symm]
      · simpa only [put, here, there, Bool.false_eq_true, if_false] using ih.cons _

/-- The same but for the order of the keys of one mapping, which may lie within. -/
inductive Reordered : Entries → Entries → Prop
  | here {es fs : Entries} (perm : es.Perm fs) : Reordered es fs
  | within {es fs : Entries} (front : Entries) (k : Value) (back : Entries)
      (inner : Reordered es fs) :
      Reordered (front ++ (k, .map es) :: back) (front ++ (k, .map fs) :: back)

/-- Mappings under one name may be put in another order. -/
theorem Reordered.putField {es fs : Entries} (h : Reordered es fs) (all : Entries)
    (name : String) :
    Reordered (putField all name (.map es)) (Entries.putField all name (.map fs)) := by
  obtain ⟨front, back, placed⟩ := putField_place all name
  rw [placed, placed]
  exact .within front _ back h

end Entries

namespace Path

open Schema.Pointer (descend)
open Entries (Reordered keysWith)

variable {ks ls : List String} {v w : Value}

theorem descend_append (ks ls : List String) (data : Value) :
    descend (ks ++ ls) data = (descend ks data).bind (descend ls) := by
  induction ks generalizing data with
  | nil => rfl
  | cons k ks ih =>
    cases data with
    | map es =>
      simp only [List.cons_append, descend]
      cases Entries.field? es k with
      | none => rfl
      | some v => exact ih v
    | _ => rfl

theorem write_cons (es : Entries) (k : String) (some : ks ≠ []) (v : Value) :
    write es (k :: ks) v =
      Entries.putField es k (.map (write (inner (Entries.field? es k)) ks v)) := by
  cases ks with
  | nil => exact absurd rfl some
  | cons k' ks => rfl

theorem keys_write (es : Entries) (k : String) (ks : List String) (v : Value) :
    Entries.keys (write es (k :: ks) v) = keysWith es k := by
  cases ks with
  | nil => exact Entries.keys_putField es k v
  | cons k' ks => exact Entries.keys_putField es k _

/-- On the way to where something was written there is the mapping that was there, or a
new one, with the rest of the way written in it. -/
theorem descend_write_above (es : Entries) (ls : List String) (some : ks ≠ []) (v : Value) :
    descend ls (.map (write es (ls ++ ks) v)) =
      Option.some (.map (write (inner (descend ls (.map es))) ks v)) := by
  induction ls generalizing es with
  | nil => rfl
  | cons l ls ih =>
    have onward : ls ++ ks ≠ [] := List.append_ne_nil_of_right_ne_nil ls some
    rw [List.cons_append, write_cons es l onward, descend, Entries.field?_putField_self,
      Option.bind_some, ih]
    cases ls with
    | nil =>
      simp only [descend]
      cases Entries.field? es l <;> rfl
    | cons l' ls => rw [descend_inner, descend]

/-- Below where something was written is what lies in it. -/
theorem descend_write_below (es : Entries) (some : ks ≠ []) (ls : List String) (v : Value) :
    descend (ks ++ ls) (.map (write es ks v)) = descend ls v := by
  rw [descend_append, descend_write_self es some, Option.bind_some]

theorem write_write (es : Entries) (ks : List String) (v w : Value) :
    write (write es ks v) ks w = write es ks w := by
  induction ks generalizing es with
  | nil => rfl
  | cons k ks ih =>
    cases ks with
    | nil => exact Entries.putField_putField es k v w
    | cons k' ks =>
      have more := List.cons_ne_nil k' ks
      simp only [write_cons _ k more, Entries.field?_putField_self, inner, ih,
        Entries.putField_putField]

theorem write_descend {es : Entries} (found : descend ks (.map es) = some v) :
    write es ks v = es := by
  induction ks generalizing es with
  | nil => rfl
  | cons k ks ih =>
    obtain ⟨below, there, found⟩ := Option.bind_eq_some_iff.mp found
    cases ks with
    | nil =>
      obtain rfl := Option.some.inj found
      exact Entries.putField_field? there
    | cons k' ks =>
      cases below with
      | map fs =>
        rw [write_cons es k (List.cons_ne_nil k' ks), there, inner, ih found]
        exact Entries.putField_field? there
      | _ => cases found

/-- Writes at two places apart come to the same in either order, but for the order of
keys where the ways to them part. -/
theorem write_reordered (es : Entries) (up : ¬ks <+: ls) (down : ¬ls <+: ks) (v w : Value) :
    Reordered (write (write es ks v) ls w) (write (write es ls w) ks v) := by
  induction ks generalizing es ls with
  | nil => exact absurd List.nil_prefix up
  | cons k ks ih =>
    cases ls with
    | nil => exact absurd List.nil_prefix down
    | cons l ls =>
      by_cases same : k = l
      · subst same
        have up : ¬ks <+: ls := fun h => up (List.prefix_cons_inj k |>.mpr h)
        have down : ¬ls <+: ks := fun h => down (List.prefix_cons_inj k |>.mpr h)
        have more : ks ≠ [] := fun none => up (none ▸ List.nil_prefix)
        have more' : ls ≠ [] := fun none => down (none ▸ List.nil_prefix)
        simp only [write_cons _ k more, write_cons _ k more', Entries.field?_putField_self,
          inner, Entries.putField_putField]
        exact (ih _ up down).putField es k
      · -- what is written under either name depends only on what was there before
        have written (fs : Entries) (j : String) (js : List String) (x : Value) :
            ∃ y, ∀ gs, Entries.field? gs j = Entries.field? fs j →
              write gs (j :: js) x = Entries.putField gs j y := by
          cases js with
          | nil => exact ⟨x, fun _ _ => rfl⟩
          | cons j' js =>
            exact ⟨_, fun gs same => by rw [write_cons gs j (List.cons_ne_nil j' js), same]⟩
        obtain ⟨y, first⟩ := written es k ks v
        obtain ⟨z, second⟩ := written es l ls w
        rw [first es rfl, second es rfl,
          second _ (Entries.field?_putField_of_ne es same y),
          first _ (Entries.field?_putField_of_ne es (Ne.symm same) z)]
        exact .here (Entries.putField_perm es same y z)

/-- After a value was written at a path, it is what the path leads to; a path that goes
on leads into it, one that stops short leads to a mapping, and one that lies apart leads
where it led before. In each mapping on the way the keys keep their places, and a new key
goes last. Writing what is there changes nothing, of two writes the later one counts, and
writes at two paths apart come to the same but for the order of keys. -/
theorem set_laws {p : String} (reads : plainKeys p = .ok ks) (es : Entries) (v : Value) :
    ∃ out, set es p v = .ok out ∧
      (∀ q ls, plainKeys q = .ok ls →
        (ls = ks → get (.map out) q = .ok (some v)) ∧
        (∀ k rest, ls = ks ++ k :: rest → get (.map out) q = .ok (descend (k :: rest) v)) ∧
        (∀ k rest, ks = ls ++ k :: rest → ∃ fs, get (.map out) q = .ok (some (.map fs))) ∧
        (¬ks <+: ls → ¬ls <+: ks → get (.map out) q = get (.map es) q ∧
          ∀ w, ∃ one before other, set out q w = .ok one ∧ set es q w = .ok before ∧
            set before p v = .ok other ∧ Reordered one other)) ∧
      (∀ front k rest, ks = front ++ k :: rest → ∃ fs,
        descend front (.map out) = some (.map fs) ∧
          Entries.keys fs = keysWith (inner (descend front (.map es))) k) ∧
      (get (.map es) p = .ok (some v) → out = es) ∧
      ∀ w, set out p w = set es p w := by
  have nonempty := plainKeys_ne_nil reads
  refine ⟨write es ks v, set_eq reads es v, fun q ls reads' => ⟨?_, ?_, ?_, ?_⟩, ?_, ?_, ?_⟩
  · rintro rfl
    rw [get_of_plainKeys reads', descend_write_self es nonempty]
  · rintro k rest rfl
    rw [get_of_plainKeys reads', descend_write_below es nonempty]
  · rintro k rest rfl
    rw [get_of_plainKeys reads', descend_write_above es ls (List.cons_ne_nil k rest)]
    exact ⟨_, rfl⟩
  · intro up down
    refine ⟨?_, fun w => ?_⟩
    · rw [get_of_plainKeys reads', get_of_plainKeys reads', descend_write_apart es up down]
    · exact ⟨_, _, _, set_eq reads' _ w, set_eq reads' es w, set_eq reads _ v,
        write_reordered es up down v w⟩
  · rintro front k rest rfl
    exact ⟨_, descend_write_above es front (List.cons_ne_nil k rest) v, keys_write _ k rest v⟩
  · intro found
    rw [get_of_plainKeys reads] at found
    exact write_descend (Except.ok.inj found)
  · intro w
    rw [set_eq reads, set_eq reads, write_write]

/-- A null on the way gives way to a mapping, in which two paths part. -/
theorem set_laws_null :
    plainKeys "a.b" = .ok ["a", "b"] ∧ plainKeys "a.c" = .ok ["a", "c"] ∧
    ∃ out, set [(.str "a", .null)] "a.b" (.record [("x", .int 1)]) = .ok out ∧
      get (.map out) "a.b" = .ok (some (.record [("x", .int 1)])) ∧
      get (.map out) "a.b.x" = .ok (some (.int 1)) ∧
      (∃ fs, get (.map out) "a" = .ok (some (.map fs))) ∧
      get (.map out) "a.c" = get (.map [(.str "a", .null)]) "a.c" ∧
      ∃ one before other, set out "a.c" .null = .ok one ∧
        set [(.str "a", .null)] "a.c" .null = .ok before ∧
        set before "a.b" (.record [("x", .int 1)]) = .ok other ∧ Reordered one other := by
  have reads : plainKeys "a.b" = .ok ["a", "b"] := by with_unfolding_all rfl
  have beside : plainKeys "a.c" = .ok ["a", "c"] := by with_unfolding_all rfl
  have above : plainKeys "a" = .ok ["a"] := by with_unfolding_all rfl
  have below : plainKeys "a.b.x" = .ok ["a", "b", "x"] := by with_unfolding_all rfl
  obtain ⟨out, written, paths, _⟩ :=
    set_laws reads [(.str "a", .null)] (.record [("x", .int 1)])
  have inside : descend ["x"] (.record [("x", .int 1)]) = some (.int 1) := by
    with_unfolding_all rfl
  obtain ⟨apart, commutes⟩ := (paths _ _ beside).2.2.2 (by decide) (by decide)
  exact ⟨reads, beside, out, written, (paths _ _ reads).1 rfl,
    inside ▸ (paths _ _ below).2.1 "x" [] rfl, (paths _ _ above).2.2.1 "b" [] rfl, apart,
    commutes .null⟩

end Path
end Quire
