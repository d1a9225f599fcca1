import Mathlib.Data.List.Pairwise
import Quire.Derivation
import Quire.Proofs.Sameness

/-! Values without those alike to an earlier one. Of the two ways to look whether a value is
there, among the keys by kind and among all values without regard to kinds, each comes to
whether one alike to it is there. So what is left are the first of all that are alike. -/

namespace Quire

namespace Value

variable {u v w : Value}

/-! ### Being alike -/

theorem alike_iff : v.alike w ↔ v.kind = w.kind ∧ v.same w := by
  simp [alike]

theorem alike_refl (sound : v.isSound) : v.alike v := alike_iff.mpr ⟨rfl, same_refl sound⟩

theorem alike_symm (sound : v.isSound) (h : v.alike w) : w.alike v := by
  obtain ⟨kind, same⟩ := alike_iff.mp h
  exact alike_iff.mpr ⟨kind.symm, same_symm sound same⟩

theorem alike_trans (first : u.alike v) (second : v.alike w) : u.alike w := by
  obtain ⟨kind, same⟩ := alike_iff.mp first
  obtain ⟨kind', same'⟩ := alike_iff.mp second
  exact alike_iff.mpr ⟨kind.trans kind', same_trans same same'⟩

/-- Among sound values being alike is an equivalence. -/
theorem alike_equivalence :
    Equivalence fun v w : { v : Value // v.isSound } => v.1.alike w.1 where
  refl v := alike_refl v.2
  symm {v _} := alike_symm v.2
  trans := alike_trans

theorem allFixed_iff {xs : List Value} : allFixed xs ↔ ∀ x ∈ xs, x.isFixed := by
  induction xs with
  | nil => simp [allFixed]
  | cons x xs ih => simp [allFixed, ih]

theorem isFixed_of_amount {x : Int ⊕ Bool} (is : v.amount? = some x) : v.isFixed := by
  cases v with
  | bool | int | real => rw [isFixed] <;> exact nofun
  | _ => cases is

/-- Of two values that are the same, both may be keys or none. -/
theorem isFixed_congr (h : v.same w) : v.isFixed = w.isFixed := by
  induction v using byParts generalizing w with
  | step v ih =>
    cases v with
    | list xs =>
      obtain ⟨ys, rfl, _⟩ := list_same.mp h
      rw [isFixed, isFixed]
    | tuple xs =>
      obtain ⟨ys, rfl, long, each⟩ := tuple_same.mp h
      have parts (i : Nat) (bound : i < xs.length) (bound' : i < ys.length) :
          xs[i].isFixed = ys[i].isFixed := ih _ (List.getElem_mem bound) (each i bound bound')
      rw [isFixed, isFixed, Bool.eq_iff_iff, allFixed_iff, allFixed_iff,
        List.forall_mem_iff_getElem, List.forall_mem_iff_getElem]
      constructor
      · exact fun all i bound => parts i (long ▸ bound) bound ▸ all i (long ▸ bound)
      · exact fun all i bound => parts i bound (long ▸ bound) ▸ all i (long ▸ bound)
    | map es =>
      obtain ⟨fs, rfl, _⟩ := map_same.mp h
      rw [isFixed, isFixed]
    | set xs =>
      obtain ⟨ys, rfl, _⟩ := set_same.mp h
      rw [isFixed, isFixed]
    | moment m =>
      obtain ⟨n, rfl, _⟩ := moment_same.mp h
      rw [isFixed, isFixed] <;> exact nofun
    | bool | int =>
      rw [isFixed_of_amount rfl, isFixed_of_amount ((amount_same rfl).mp h)]
    | real x =>
      cases x with
      | nan mark =>
        obtain ⟨_, rfl⟩ := nan_same.mp h
        rfl
      | _ => rw [isFixed_of_amount rfl, isFixed_of_amount ((amount_same rfl).mp h)]
    | _ =>
      obtain rfl := (rigid_same rfl).mp h
      rfl

/-- What is the same as something that may not be a key is of its kind. -/
theorem kind_of_same (h : v.same w) (loose : v.isFixed = false) : v.kind = w.kind := by
  cases v with
  | list xs =>
    obtain ⟨ys, rfl, _⟩ := list_same.mp h
    rfl
  | tuple xs =>
    obtain ⟨ys, rfl, _⟩ := tuple_same.mp h
    rfl
  | map es =>
    obtain ⟨fs, rfl, _⟩ := map_same.mp h
    rfl
  | set xs =>
    obtain ⟨ys, rfl, _⟩ := set_same.mp h
    rfl
  | cycle mapping =>
    obtain rfl := (rigid_same rfl).mp h
    rfl
  | _ =>
    rw [isFixed] at loose
    · cases loose
    all_goals exact nofun

end Value

namespace Distinct

variable {d : Distinct} {u v w : Value} {us vs ws : List Value}

/-! ### The two ways to look -/

/-- Either way a value is there when one alike to it is. -/
theorem holds_eq (d : Distinct) (v : Value) : d.holds v = d.values.any (·.alike v) := by
  rw [Bool.eq_iff_iff, holds, List.any_eq_true]
  split
  · next fixed =>
    rw [d.keys_eq, List.any_map, List.any_filter, List.any_eq_true]
    refine exists_congr fun w => and_congr_right fun _ => ?_
    rw [Function.comp_apply, Bool.and_eq_true, Value.alike]
    refine and_iff_right_of_imp fun alike => ?_
    rw [Value.isFixed_congr (Value.alike_iff.mp alike).2]
    exact fixed
  · next loose =>
    rw [Bool.not_eq_true] at loose
    rw [List.any_eq_true]
    refine exists_congr fun w => and_congr_right fun _ => ?_
    rw [Value.alike_iff]
    refine (and_iff_right_of_imp fun same => ?_).symm
    exact Value.kind_of_same same ((Value.isFixed_congr same).trans loose)

/-- What is entered as keys is settled by the values. -/
theorem ext_values {d e : Distinct} (same : d.values = e.values) : d = e := by
  obtain ⟨values, keys, rfl⟩ := d
  obtain ⟨values', keys', rfl⟩ := e
  obtain rfl : values = values' := same
  rfl

theorem insert_of_holds (there : d.values.any (·.alike v)) : d.insert v = d := by
  rw [insert, holds_eq, if_pos there]

theorem values_insert (new : d.values.any (·.alike v) = false) :
    (d.insert v).values = d.values ++ [v] := by
  rw [insert, holds_eq, new]
  rfl

theorem ofList_append (vs ws : List Value) : ofList (vs ++ ws) = ws.foldl insert (ofList vs) :=
  List.foldl_append

/-! ### No two alike -/

/-- No two of the values are alike. -/
def Unlike (vs : List Value) : Prop := vs.Pairwise fun v w => ¬v.alike w

theorem unlike_insert (unlike : Unlike d.values) (v : Value) : Unlike (d.insert v).values := by
  cases there : d.values.any (·.alike v) with
  | true => rwa [insert_of_holds there]
  | false =>
    rw [values_insert there]
    refine List.pairwise_append.mpr ⟨unlike, List.pairwise_singleton _ v, fun w inside x new => ?_⟩
    obtain rfl := List.mem_singleton.mp new
    exact List.any_eq_false.mp there w inside

theorem unlike_foldl (unlike : Unlike d.values) (vs : List Value) :
    Unlike (vs.foldl insert d).values := by
  induction vs generalizing d with
  | nil => exact unlike
  | cons v vs ih => exact ih (unlike_insert unlike v)

theorem unlike_ofList (vs : List Value) : Unlike (ofList vs).values :=
  unlike_foldl (show Unlike (values {}) from List.Pairwise.nil) vs

/-- Values of which no two are alike all stay. -/
theorem values_foldl_of_unlike (unlike : Unlike (d.values ++ vs)) :
    (vs.foldl insert d).values = d.values ++ vs := by
  induction vs generalizing d with
  | nil => exact (List.append_nil d.values).symm
  | cons v vs ih =>
    have new : d.values.any (·.alike v) = false := by
      rw [List.any_eq_false]
      exact fun w inside => (List.pairwise_append.mp unlike).2.2 w inside v List.mem_cons_self
    have whole : (d.insert v).values ++ vs = d.values ++ v :: vs := by
      rw [values_insert new, List.append_assoc, List.singleton_append]
    rw [List.foldl_cons, ih (whole ▸ unlike), whole]

theorem ofList_values (vs : List Value) : ofList (ofList vs).values = ofList vs :=
  ext_values (values_foldl_of_unlike (unlike_ofList vs))

/-! ### The first of those that are alike -/

/-- The values that are not alike to any before them, in their order. -/
def firsts (vs : List Value) : List Value :=
  (vs.zipIdx.filter fun p => !(vs.take p.2).any (·.alike p.1)).map (·.1)

/-- After values `us`, of which it is known whether one is alike to a given value, those stay
that come first. -/
theorem values_foldl (known : ∀ v, d.values.any (·.alike v) = us.any (·.alike v))
    (vs : List Value) :
    (vs.foldl insert d).values = d.values ++
      (vs.zipIdx.filter fun p => !(us ++ vs.take p.2).any (·.alike p.1)).map (·.1) := by
  induction vs generalizing d us with
  | nil => exact (List.append_nil d.values).symm
  | cons v vs ih =>
    have later : ((vs.zipIdx.map (Prod.map id (· + 1))).filter
          fun p => !(us ++ (v :: vs).take p.2).any (·.alike p.1)).map (·.1) =
        (vs.zipIdx.filter fun p => !(us ++ [v] ++ vs.take p.2).any (·.alike p.1)).map (·.1) := by
      rw [List.filter_map, List.map_map]
      simp [Function.comp_def]
    rw [List.foldl_cons, List.zipIdx_cons', List.filter_cons]
    simp only [List.take_zero, List.append_nil]
    cases there : us.any (·.alike v) with
    | true =>
      have known' (w : Value) : d.values.any (·.alike w) = (us ++ [v]).any (·.alike w) := by
        rw [known, List.any_append, List.any_cons, List.any_nil, Bool.or_false]
        refine (Bool.or_eq_left_iff_imp.mpr fun alike => ?_).symm
        obtain ⟨u, inside, before⟩ := List.any_eq_true.mp there
        exact List.any_eq_true.mpr ⟨u, inside, Value.alike_trans before alike⟩
      rw [insert_of_holds ((known v).trans there), ih known']
      simp only [Bool.not_true, Bool.false_eq_true, if_false, later]
    | false =>
      have new : d.values.any (·.alike v) = false := (known v).trans there
      have known' (w : Value) :
          (d.insert v).values.any (·.alike w) = (us ++ [v]).any (·.alike w) := by
        rw [values_insert new, List.any_append, List.any_append, known]
      rw [ih known', values_insert new]
      simp only [Bool.not_false, if_true, List.map_cons, later, List.append_assoc,
        List.singleton_append]

theorem dedupe_eq_firsts (vs : List Value) : dedupe vs = firsts vs :=
  @values_foldl {} [] (fun _ => rfl) vs

theorem mem_of_mem_firsts (inside : v ∈ firsts vs) : v ∈ vs := by
  obtain ⟨p, kept, rfl⟩ := List.mem_map.mp inside
  exact List.fst_mem_of_mem_zipIdx (List.mem_of_mem_filter kept)

/-- Which value is found first for being alike to a given one is the same as before. -/
theorem find?_foldl (v : Value) (vs : List Value) (d : Distinct) :
    (vs.foldl insert d).values.find? (·.alike v) = (d.values ++ vs).find? (·.alike v) := by
  induction vs generalizing d with
  | nil => rw [List.append_nil]; rfl
  | cons w vs ih =>
    rw [List.foldl_cons, ih]
    cases there : d.values.any (·.alike w) with
    | false => rw [values_insert there, List.append_assoc, List.singleton_append]
    | true =>
      rw [insert_of_holds there, List.find?_append, List.find?_append, List.find?_cons]
      split
      · next alike =>
        obtain ⟨u, inside, before⟩ := List.any_eq_true.mp there
        have found : (d.values.find? (·.alike v)).isSome :=
          List.find?_isSome.mpr ⟨u, inside, Value.alike_trans before alike⟩
        rw [Option.or_of_isSome found, Option.or_of_isSome found]
      · rfl

theorem find?_dedupe (v : Value) (vs : List Value) :
    (dedupe vs).find? (·.alike v) = vs.find? (·.alike v) := find?_foldl v vs {}

theorem holds_ofList (us : List Value) (v : Value) :
    (ofList us).holds v ↔ ∃ u ∈ us, u.alike v := by
  rw [holds_eq, ← List.isSome_find?]
  change ((dedupe us).find? (·.alike v)).isSome ↔ _
  rw [find?_dedupe, List.find?_isSome]

end Distinct

open Distinct (firsts)

theorem mem_dedupe {vs : List Value} {v : Value} (inside : v ∈ dedupe vs) : v ∈ vs :=
  Distinct.mem_of_mem_firsts (Distinct.dedupe_eq_firsts vs ▸ inside)

section Sound

variable {vs : List Value} (sound : ∀ v ∈ vs, v.isSound)
include sound

theorem dedupe_unlike : (dedupe vs).Pairwise fun v w => ¬v.alike w ∧ ¬w.alike v := by
  refine (Distinct.unlike_ofList vs).imp_of_mem fun _ later differ => ⟨differ, fun alike => ?_⟩
  exact differ (Value.alike_symm (sound _ (mem_dedupe later)) alike)

/-- What stays is not alike to anything else that stays. -/
theorem eq_of_alike {v w : Value} (keptV : v ∈ dedupe vs) (keptW : w ∈ dedupe vs)
    (alike : v.alike w) : v = w := by
  by_contra other
  have symm : Std.Symm fun v w : Value => ¬v.alike w ∧ ¬w.alike v := ⟨fun _ _ => And.symm⟩
  exact ((dedupe_unlike sound).forall keptV keptW other).1 alike

end Sound

/-- Among values without a NaN, of whatever kinds, those stay that are not alike to any before
them, in their order; being alike is an equivalence, and both ways to look whether a value is
there come to whether one alike to it came before. So no two that stay are alike, each value has
one alike to it that stays, and going over the values in one go or in parts gives the same. -/
theorem dedupe_keeps_firsts {vs : List Value} (sound : ∀ v ∈ vs, v.isSound) :
    dedupe vs = firsts vs ∧
      Equivalence (fun v w : { v : Value // v.isSound } => v.1.alike w.1) ∧
      (∀ us v rest, vs = us ++ v :: rest →
        ((Distinct.ofList us).holds v ↔ ∃ u ∈ us, u.alike v)) ∧
      (dedupe vs).Pairwise (fun v w => ¬v.alike w ∧ ¬w.alike v) ∧
      (∀ v ∈ vs, ∃ w ∈ dedupe vs, w.alike v) ∧
      dedupe (dedupe vs) = dedupe vs ∧
      ∀ ws, dedupe (vs ++ ws) = dedupe (dedupe vs ++ ws) := by
  refine ⟨Distinct.dedupe_eq_firsts vs, Value.alike_equivalence,
    fun us v _ _ => Distinct.holds_ofList us v, dedupe_unlike sound, fun v inside => ?_, ?_,
    fun ws => ?_⟩
  · have found : ((dedupe vs).find? (·.alike v)).isSome := by
      rw [Distinct.find?_dedupe, List.find?_isSome]
      exact ⟨v, inside, Value.alike_refl (sound v inside)⟩
    exact List.find?_isSome.mp found
  · exact congrArg Distinct.values (Distinct.ofList_values vs)
  · have parts : Distinct.ofList (vs ++ ws) = Distinct.ofList (dedupe vs ++ ws) := by
      rw [Distinct.ofList_append, Distinct.ofList_append]
      change _ = ws.foldl _ (Distinct.ofList (Distinct.ofList vs).values)
      rw [Distinct.ofList_values]
    exact congrArg Distinct.values parts

/-- Values of all sorts, some of them equal across kinds, on the outside and within. -/
def medley : List Value :=
  [.int 1, .bool true, .real (.ofInt 1), .int 1, .date ⟨2024, 1, 2⟩,
    .tuple [.int 1, .list []], .tuple [.bool true, .list []],
    .record [("a", .int 1), ("b", .null)], .record [("b", .null), ("a", .int 1)]]

theorem dedupe_keeps_firsts_medley :
    (∀ v ∈ medley, v.isSound) ∧ dedupe medley = firsts medley ∧
      (dedupe medley).map Value.kind = [.int, .bool, .real, .date, .tuple, .map] ∧
      (dedupe medley).Pairwise (fun v w => ¬v.alike w ∧ ¬w.alike v) ∧
      (∃ w ∈ dedupe medley, w.alike (.tuple [.bool true, .list []])) ∧
      dedupe (dedupe medley) = dedupe medley ∧
      dedupe (medley ++ [.real (.ofInt 1)]) = dedupe (dedupe medley ++ [.real (.ofInt 1)]) := by
  have sound : ∀ v ∈ medley, v.isSound := by decide +kernel
  obtain ⟨first, _, _, unlike, each, again, parts⟩ := dedupe_keeps_firsts sound
  exact ⟨sound, first, by decide +kernel, unlike, each _ (by simp [medley]), again,
    parts _⟩

end Quire
