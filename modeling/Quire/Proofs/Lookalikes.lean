import Quire.Proofs.Distinct

/-! JSON values that look alike. Of two values that are alike, one may hold a number of another
kind than the other has at the same place, such as one and a truth value; they are then not
identical. Which of the JSON values is lost among distinct ones depends on that alone. -/

namespace Quire

namespace Entries

/-- Where no key is twice, a field that is there is the one that is found. -/
theorem field?_of_mem {es : Entries} {name : String} {v : Value}
    (apart : es.Pairwise fun e later => ¬e.1.same later.1) (inside : (.str name, v) ∈ es) :
    field? es name = some v := by
  induction es with
  | nil => cases inside
  | cons e es ih =>
    obtain ⟨k, w⟩ := e
    obtain ⟨first, apart⟩ := List.pairwise_cons.mp apart
    rw [field?, get?_cons]
    rcases List.mem_cons.mp inside with here | later
    · obtain ⟨rfl, rfl⟩ := Prod.mk.inj here
      rw [if_pos ((Value.same_str _ name).mpr rfl)]
    · rw [if_neg (first _ later)]
      exact ih apart later

theorem mem_of_field? {es : Entries} {name : String} {v : Value}
    (found : field? es name = some v) : (.str name, v) ∈ es := by
  obtain ⟨k, inside, same⟩ := mem_of_get? found
  exact (Value.same_str k name).mp same ▸ inside

end Entries

namespace Value

variable {v w : Value} {xs ys : List Value} {es fs : Entries}

mutual

/-- Whether a value is of the kinds that JSON has, with texts for keys. -/
def isJson : Value → Bool
  | .null | .bool _ | .int _ | .real _ | .str _ => true
  | .list xs => allJson xs
  | .map es => fieldsJson es
  | _ => false

def allJson : List Value → Bool
  | [] => true
  | x :: xs => isJson x && allJson xs

def fieldsJson : List (Value × Value) → Bool
  | [] => true
  | (k, v) :: es => k.str?.isSome && isJson v && fieldsJson es

end

mutual

/-- Whether two JSON values are one and the same: numbers and truth values are told apart by
kind however deep they lie; the order of fields and the sign of zero do not count. -/
def identical : Value → Value → Bool
  | .list xs, .list ys => identicalList xs ys
  | .map es, .map fs => es.length = fs.length && identicalFields es fs
  | v, w => v.alike w

def identicalList : List Value → List Value → Bool
  | [], [] => true
  | x :: xs, y :: ys => identical x y && identicalList xs ys
  | _, _ => false

def identicalFields : List (Value × Value) → List (Value × Value) → Bool
  | [], _ => true
  | (k, v) :: es, fs =>
    fs.any (fun f => k.same f.1 && identical v f.2) && identicalFields es fs

end

/-- At some place two values hold numbers that are equal but of different kinds. -/
inductive Blurs : Value → Value → Prop
  | here {v w : Value} (kinds : v.kind ≠ w.kind) (same : v.same w) : Blurs v w
  | item {xs ys : List Value} {i : Nat} {v w : Value} (left : xs[i]? = some v)
      (right : ys[i]? = some w) (below : Blurs v w) : Blurs (.list xs) (.list ys)
  | field {es fs : Entries} {name : String} {v w : Value} (left : Entries.field? es name = some v)
      (right : Entries.field? fs name = some w) (below : Blurs v w) : Blurs (.map es) (.map fs)

theorem allJson_iff : allJson xs ↔ ∀ x ∈ xs, x.isJson := by
  induction xs with
  | nil => simp [allJson]
  | cons x xs ih => simp [allJson, ih]

theorem fieldsJson_iff :
    fieldsJson es ↔ ∀ e ∈ es, (∃ name, e.1 = .str name) ∧ e.2.isJson := by
  have text (k : Value) : k.str?.isSome ↔ ∃ name, k = .str name := by
    cases k <;> simp [str?]
  induction es with
  | nil => simp [fieldsJson]
  | cons e es ih =>
    obtain ⟨k, v⟩ := e
    simp only [fieldsJson, Bool.and_eq_true, text, ih, List.forall_mem_cons]

theorem identicalList_iff :
    identicalList xs ys ↔ xs.length = ys.length ∧
      ∀ i (_ : i < xs.length) (_ : i < ys.length), xs[i].identical ys[i] := by
  have pairs : identicalList xs ys ↔ List.Forall₂ (fun x y => x.identical y) xs ys := by
    induction xs generalizing ys with
    | nil => cases ys <;> simp [identicalList]
    | cons x xs ih => cases ys <;> simp [identicalList, ih]
  rw [pairs, List.forall₂_iff_get]
  rfl

theorem identicalFields_iff :
    identicalFields es fs ↔ ∀ e ∈ es, ∃ f ∈ fs, e.1.same f.1 ∧ e.2.identical f.2 := by
  induction es with
  | nil => simp [identicalFields]
  | cons e es ih =>
    obtain ⟨k, v⟩ := e
    simp only [identicalFields, Bool.and_eq_true, List.any_eq_true, ih, List.forall_mem_cons]

theorem list_identical :
    (Value.list xs).identical (.list ys) ↔ xs.length = ys.length ∧
      ∀ i (_ : i < xs.length) (_ : i < ys.length), xs[i].identical ys[i] := by
  rw [identical, identicalList_iff]

theorem map_identical :
    (Value.map es).identical (.map fs) ↔ es.length = fs.length ∧
      ∀ e ∈ es, ∃ f ∈ fs, e.1.same f.1 ∧ e.2.identical f.2 := by
  rw [identical, Bool.and_eq_true, decide_eq_true_iff, identicalFields_iff]

theorem list_blurs :
    (Value.list xs).Blurs (.list ys) ↔
      ∃ i, ∃ (_ : i < xs.length) (_ : i < ys.length), xs[i].Blurs ys[i] := by
  constructor
  · rintro (⟨kinds, _⟩ | ⟨left, right, below⟩)
    · exact absurd rfl kinds
    · obtain ⟨bound, rfl⟩ := List.getElem?_eq_some_iff.mp left
      obtain ⟨bound', rfl⟩ := List.getElem?_eq_some_iff.mp right
      exact ⟨_, bound, bound', below⟩
  · rintro ⟨i, bound, bound', below⟩
    exact .item (List.getElem?_eq_getElem bound) (List.getElem?_eq_getElem bound') below

theorem map_blurs :
    (Value.map es).Blurs (.map fs) ↔ ∃ name v w, Entries.field? es name = some v ∧
      Entries.field? fs name = some w ∧ v.Blurs w := by
  constructor
  · rintro (⟨kinds, _⟩ | _ | ⟨left, right, below⟩)
    · exact absurd rfl kinds
    · exact ⟨_, _, _, left, right, below⟩
  · rintro ⟨name, v, w, left, right, below⟩
    exact .field left right below

/-- Where nothing is blurred, what is the same is alike. -/
theorem alike_of_same (h : v.same w) (clear : ¬v.Blurs w) : v.alike w :=
  alike_iff.mpr ⟨by_contra fun kinds => clear (.here kinds h), h⟩

/-- Two scalars that are alike have no places in them that could be blurred. -/
theorem not_blurs_of_alike (h : v.alike w) (list : v.kind ≠ .list) (map : v.kind ≠ .map) :
    ¬v.Blurs w := by
  rintro (⟨kinds, _⟩ | _ | _)
  · exact kinds (alike_iff.mp h).1
  · exact list rfl
  · exact map rfl

theorem list_json (json : (Value.list xs).isJson) : ∀ x ∈ xs, x.isJson := by
  rw [isJson] at json
  exact allJson_iff.mp json

theorem map_json (json : (Value.map es).isJson) :
    ∀ e ∈ es, (∃ name, e.1 = .str name) ∧ e.2.isJson := by
  rw [isJson] at json
  exact fieldsJson_iff.mp json

theorem map_apart (sound : (Value.map es).isSound) :
    es.Pairwise fun e later => ¬e.1.same later.1 := by
  rw [isSound] at sound
  exact (entriesSound_iff.mp sound).2

/-- Lists are identical when they are alike and not blurred, if that is so of their items. -/
theorem list_identical_iff
    (item : ∀ i (_ : i < xs.length) (_ : i < ys.length),
      xs[i].identical ys[i] ↔ xs[i].alike ys[i] ∧ ¬xs[i].Blurs ys[i]) :
    (Value.list xs).identical (.list ys) ↔
      (Value.list xs).alike (.list ys) ∧ ¬(Value.list xs).Blurs (.list ys) := by
  rw [list_identical, alike_iff, list_blurs]
  constructor
  · rintro ⟨long, each⟩
    have parts (i bound bound') := (item i bound bound').mp (each i bound bound')
    refine ⟨⟨rfl, list_same.mpr ⟨ys, rfl, long, fun i bound bound' => ?_⟩⟩, ?_⟩
    · exact (alike_iff.mp (parts i bound bound').1).2
    · exact fun ⟨i, bound, bound', below⟩ => (parts i bound bound').2 below
  · rintro ⟨⟨_, same⟩, clear⟩
    obtain ⟨ys', whole, long, each⟩ := list_same.mp same
    obtain rfl := Value.list.inj whole
    refine ⟨long, fun i bound bound' => (item i bound bound').mpr ?_⟩
    have clear' : ¬xs[i].Blurs ys[i] := fun below => clear ⟨i, bound, bound', below⟩
    exact ⟨alike_of_same (each i bound bound') clear', clear'⟩

/-- Mappings are identical when they are alike and not blurred, if that is so of what is under
their names, and no name is twice. -/
theorem map_identical_iff (names : ∀ e ∈ es, ∃ name, e.1 = .str name)
    (apart : es.Pairwise fun e later => ¬e.1.same later.1)
    (apart' : fs.Pairwise fun e later => ¬e.1.same later.1)
    (field : ∀ e ∈ es, ∀ f ∈ fs,
      (e.2.identical f.2 ↔ e.2.alike f.2 ∧ ¬e.2.Blurs f.2)) :
    (Value.map es).identical (.map fs) ↔
      (Value.map es).alike (.map fs) ∧ ¬(Value.map es).Blurs (.map fs) := by
  rw [map_identical, alike_iff, map_blurs]
  constructor
  · rintro ⟨long, each⟩
    refine ⟨⟨rfl, map_same.mpr ⟨fs, rfl, long, fun e inside => ?_⟩⟩, ?_⟩
    · obtain ⟨f, inside', key, value⟩ := each e inside
      have alike := ((field e inside f inside').mp value).1
      exact ⟨f, inside', key, (alike_iff.mp alike).2⟩
    · rintro ⟨name, v, w, left, right, below⟩
      have inside := Entries.mem_of_field? left
      obtain ⟨⟨k, w'⟩, inside', key, value⟩ := each _ inside
      obtain rfl := (rigid_same rfl).mp key
      have found := Entries.field?_of_mem apart' inside'
      obtain rfl := Option.some.inj (found.symm.trans right)
      exact ((field _ inside _ inside').mp value).2 below
  · rintro ⟨⟨_, same⟩, clear⟩
    obtain ⟨fs', whole, long, each⟩ := map_same.mp same
    obtain rfl := Value.map.inj whole
    refine ⟨long, fun e inside => ?_⟩
    obtain ⟨⟨k, w⟩, inside', key, value⟩ := each e inside
    obtain ⟨name, spelled⟩ := names e inside
    obtain ⟨k', v⟩ := e
    obtain rfl : k' = .str name := spelled
    obtain rfl := (rigid_same rfl).mp key
    have clear' : ¬v.Blurs w := fun below => clear ⟨name, v, w,
      Entries.field?_of_mem apart inside, Entries.field?_of_mem apart' inside', below⟩
    exact ⟨_, inside', key, (field _ inside _ inside').mpr ⟨alike_of_same value clear', clear'⟩⟩

/-- Two JSON values are identical when they are alike and nothing in them is blurred. -/
theorem identical_iff (sound : v.isSound) (sound' : w.isSound) (json : v.isJson) :
    v.identical w ↔ v.alike w ∧ ¬v.Blurs w := by
  induction v using byParts generalizing w with
  | step v ih =>
    have part {x y : Value} (inside : x ∈ v.parts) (sound' : y.isSound) (json : x.isJson) :
        x.identical y ↔ x.alike y ∧ ¬x.Blurs y :=
      ih x inside (parts_sound sound x inside) sound' json
    cases v with
    | list xs =>
      cases w with
      | list ys =>
        refine list_identical_iff fun i bound bound' => ?_
        have inside := List.getElem_mem bound
        exact part inside (parts_sound sound' _ (List.getElem_mem bound'))
          (list_json json _ inside)
      | _ => simp [identical, alike, same]
    | map es =>
      cases w with
      | map fs =>
        refine map_identical_iff (fun e inside => (map_json json e inside).1) (map_apart sound)
          (map_apart sound') fun e inside f inside' => ?_
        exact part (mem_parts_map inside).2 (parts_sound sound' _ (mem_parts_map inside').2)
          (map_json json e inside).2
      | _ => simp [identical, alike, same]
    | null | bool | int | real | str =>
      rw [identical]
      · refine (and_iff_left_of_imp fun alike => ?_).symm
        exact not_blurs_of_alike alike (by simp [kind]) (by simp [kind])
      all_goals rintro _ _ ⟨⟩
    | _ => simp [isJson] at json

end Value

open Value

variable {vs : List Value} {v : Value}

/-- Of each JSON value the first that is alike to it stays and no other, so that the value itself
stays, but for the order of fields and the sign of zero, unless that first one holds a number
where the value holds an equal one of another kind. Scalars always stay. -/
theorem dedupe_blurs (sound : ∀ v ∈ vs, v.isSound) (json : ∀ v ∈ vs, v.isJson)
    (inside : v ∈ vs) :
    ∃ w ∈ dedupe vs, vs.find? (·.alike v) = some w ∧
      ((∃ u ∈ dedupe vs, u.identical v) ↔ ¬w.Blurs v) ∧
      (v.kind ≠ .list → v.kind ≠ .map → ¬w.Blurs v) := by
  have sound' := sound v inside
  have found : (vs.find? (·.alike v)).isSome :=
    List.find?_isSome.mpr ⟨v, inside, alike_refl sound'⟩
  obtain ⟨w, first⟩ := Option.isSome_iff_exists.mp found
  have stays : w ∈ dedupe vs := List.mem_of_find?_eq_some ((Distinct.find?_dedupe v vs).trans first)
  have alike : w.alike v := by simpa using List.find?_some first
  have kind := (alike_iff.mp alike).1
  have only (u : Value) (kept : u ∈ dedupe vs) (alike' : u.alike v) : u = w := by
    have back := alike_symm (sound w (mem_dedupe stays)) alike
    exact eq_of_alike sound kept stays (alike_trans alike' back)
  have split {u : Value} (kept : u ∈ dedupe vs) : u.identical v ↔ u.alike v ∧ ¬u.Blurs v :=
    identical_iff (sound u (mem_dedupe kept)) sound' (json u (mem_dedupe kept))
  refine ⟨w, stays, first, ⟨fun ⟨u, kept, h⟩ => ?_, fun clear => ⟨w, stays, ?_⟩⟩,
    fun list map => ?_⟩
  · obtain ⟨alike', clear⟩ := (split kept).mp h
    exact only u kept alike' ▸ clear
  · exact (split stays).mpr ⟨alike, clear⟩
  · exact not_blurs_of_alike alike (kind ▸ list) (kind ▸ map)

/-- Pairs in lists and under names, one of each with a truth value for its number. -/
def lookalikes : List Value :=
  [.int 1, .bool true, .list [.int 1], .list [.bool true], .record [("a", .int 1), ("b", .null)],
    .record [("b", .null), ("a", .int 1)]]

theorem dedupe_blurs_sample :
    (∀ v ∈ lookalikes, v.isSound) ∧ (∀ v ∈ lookalikes, v.isJson) ∧
    .record [("b", .null), ("a", .int 1)] ∈ lookalikes ∧
    ∃ w ∈ dedupe lookalikes,
      lookalikes.find? (·.alike (.record [("b", .null), ("a", .int 1)])) = some w ∧
      ((∃ u ∈ dedupe lookalikes, u.identical (.record [("b", .null), ("a", .int 1)])) ↔
        ¬w.Blurs (.record [("b", .null), ("a", .int 1)])) := by
  have sound : ∀ v ∈ lookalikes, v.isSound := by decide +kernel
  have json : ∀ v ∈ lookalikes, v.isJson := by decide +kernel
  have inside : .record [("b", .null), ("a", .int 1)] ∈ lookalikes := by simp [lookalikes]
  obtain ⟨w, stays, first, kept, _⟩ := dedupe_blurs sound json inside
  exact ⟨sound, json, inside, w, stays, first, kept⟩

/-- A list with a truth value is lost to one with a number. -/
theorem dedupe_confuses :
    let values : List Value := [.list [.int 1], .list [.bool true]]
    (∀ v ∈ values, v.isSound) ∧ (∀ v ∈ values, v.isJson) ∧ .list [.bool true] ∈ values ∧
      dedupe values = [.list [.int 1]] ∧
      ¬∃ w ∈ dedupe values, w.identical (.list [.bool true]) := by
  have only : dedupe [.list [.int 1], .list [.bool true]] = [.list [.int 1]] := by
    with_unfolding_all rfl
  refine ⟨by decide +kernel, by decide +kernel, by simp, only, ?_⟩
  rintro ⟨w, stays, same⟩
  rw [only] at stays
  obtain rfl := List.mem_singleton.mp stays
  revert same
  decide +kernel

end Quire
