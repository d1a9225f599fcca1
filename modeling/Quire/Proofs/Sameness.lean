import Mathlib.Data.List.Forall2
import Quire.Proofs.Entries

/-! Equality of values. Among values without a NaN it is an equivalence: two lists are equal
item by item, two mappings when they have as many entries and each entry of one has its like
in the other, and numbers when they are one exact value, whatever their kinds. -/

namespace Quire

/-! ### Numbers -/

namespace Number

/-- The exact value, in units of the floating point numbers, or the sign of an infinity. -/
def amount? : Number → Option (Int ⊕ Bool)
  | .whole n => some (.inl (n * Binary64.one))
  | .real (.finite negative units) => some (.inl (if negative then -(units : Int) else units))
  | .real (.infinite negative) => some (.inr negative)
  | .real (.nan _) => none

theorem compareInt?_eq_eq {x : Binary64} {n : Int} :
    x.compareInt? n = some .eq ↔ (Number.real x).amount? = (Number.whole n).amount? := by
  cases x with
  | nan mark => simp only [Binary64.compareInt?, amount?, reduceCtorEq]
  | infinite negative =>
    cases negative <;>
      simp only [Binary64.compareInt?, amount?, Option.some.injEq, reduceIte, reduceCtorEq]
  | finite negative units =>
    simp only [Binary64.compareInt?, amount?, Option.some.injEq, Int.compare_eq_eq, Sum.inl.injEq]

theorem compare?_eq_eq {x y : Binary64} :
    x.compare? y = some .eq ↔
      x.isNaN = false ∧ (Number.real x).amount? = (Number.real y).amount? := by
  cases x with
  | nan mark => simp [Binary64.compare?, Binary64.isNaN]
  | infinite negative =>
    cases y with
    | infinite other =>
      cases negative <;> cases other <;> simp [Binary64.compare?, Binary64.isNaN, amount?]
    | _ => cases negative <;> simp [Binary64.compare?, Binary64.isNaN, amount?]
  | finite negative units =>
    cases y with
    | nan mark => simp [Binary64.compare?, Binary64.isNaN, amount?]
    | infinite other => cases other <;> simp [Binary64.compare?, Binary64.isNaN, amount?]
    | finite other units' =>
      simp only [Binary64.compare?, Binary64.isNaN, amount?, Option.some.injEq,
        Int.compare_eq_eq, Sum.inl.injEq, true_and]

theorem amount?_isSome {x : Binary64} : (Number.real x).amount?.isSome = !x.isNaN := by
  cases x <;> rfl

/-- Numbers are the same when they have one exact value. -/
theorem same_iff {a b : Number} : a.same b ↔ a.amount?.isSome ∧ a.amount? = b.amount? := by
  cases a with
  | whole m =>
    cases b with
    | whole n =>
      have one : (Binary64.one : Int) ≠ 0 := by decide +kernel
      rw [same_whole, decide_eq_true_iff]
      simp only [amount?, Option.isSome_some, Option.some.injEq, Sum.inl.injEq, true_and]
      exact ⟨fun h => h ▸ rfl, Int.eq_of_mul_eq_mul_right one⟩
    | real y =>
      have flipped : (y.compareInt? m).map flip = some .eq ↔ y.compareInt? m = some .eq := by
        rcases y.compareInt? m with _ | _ | _ | _ <;> simp [flip]
      rw [same, decide_eq_true_iff, compare?, flipped, compareInt?_eq_eq, eq_comm]
      exact (and_iff_right rfl).symm
  | real x =>
    cases b with
    | whole n =>
      rw [same, decide_eq_true_iff, compare?, compareInt?_eq_eq]
      exact ⟨fun h => ⟨h ▸ rfl, h⟩, And.right⟩
    | real y =>
      rw [same, decide_eq_true_iff, compare?, compare?_eq_eq, amount?_isSome]
      simp

end Number

namespace Moment

theorem same_iff {a b : Moment} :
    a.same b ↔ a.instant? = b.instant? ∧
      (a.instant? = none → a.date = b.date ∧ a.time = b.time) := by
  unfold same
  cases a.instant? <;> cases b.instant? <;> simp

theorem same_trans {a b c : Moment} (first : a.same b) (second : b.same c) : a.same c := by
  rw [same_iff] at first second ⊢
  refine ⟨first.1.trans second.1, fun none => ?_⟩
  obtain ⟨date, time⟩ := first.2 none
  obtain ⟨date', time'⟩ := second.2 (first.1 ▸ none)
  exact ⟨date.trans date', time.trans time'⟩

end Moment

namespace Value

/-! ### Parts -/

/-- What a collection holds, keys included. -/
def parts : Value → List Value
  | .list xs => xs
  | .tuple xs => xs
  | .map es => es.flatMap fun e => [e.1, e.2]
  | .set xs => xs
  | _ => []

theorem mem_parts_map {es : Entries} {e : Value × Value} (inside : e ∈ es) :
    e.1 ∈ (Value.map es).parts ∧ e.2 ∈ (Value.map es).parts :=
  ⟨List.mem_flatMap.mpr ⟨e, inside, List.mem_cons_self⟩,
    List.mem_flatMap.mpr ⟨e, inside, by simp⟩⟩

theorem sizeOf_lt_of_mem_parts {v w : Value} (inside : w ∈ v.parts) : sizeOf w < sizeOf v := by
  cases v with
  | list xs | tuple xs | set xs =>
    have smaller := List.sizeOf_lt_of_mem (show w ∈ xs from inside)
    simp only [list.sizeOf_spec, tuple.sizeOf_spec, set.sizeOf_spec]
    omega
  | map es =>
    obtain ⟨⟨k, x⟩, among, here⟩ := List.mem_flatMap.mp inside
    have smaller := List.sizeOf_lt_of_mem among
    simp only [List.mem_cons, List.not_mem_nil, or_false] at here
    simp only [map.sizeOf_spec, Prod.mk.sizeOf_spec] at smaller ⊢
    rcases here with rfl | rfl <;> omega
  | _ => cases inside

/-- What holds of a value as soon as it holds of all its parts holds of every value. -/
@[elab_as_elim]
theorem byParts {P : Value → Prop} (step : ∀ v, (∀ w ∈ v.parts, P w) → P v) (v : Value) : P v :=
  step v fun w _ => byParts step w
termination_by sizeOf v
decreasing_by exact sizeOf_lt_of_mem_parts ‹_›

/-! ### What is the same as a given value -/

variable {u v w : Value} {xs ys : List Value} {es fs : Entries}

theorem sameList_iff :
    sameList xs ys ↔ xs.length = ys.length ∧
      ∀ i (_ : i < xs.length) (_ : i < ys.length), xs[i].same ys[i] := by
  have pairs : sameList xs ys ↔ List.Forall₂ (fun x y => x.same y) xs ys := by
    induction xs generalizing ys with
    | nil => cases ys <;> simp [sameList]
    | cons x xs ih => cases ys <;> simp [sameList, ih]
  rw [pairs, List.forall₂_iff_get]
  rfl

theorem sameEntries_iff :
    sameEntries es fs ↔ ∀ e ∈ es, ∃ f ∈ fs, e.1.same f.1 ∧ e.2.same f.2 := by
  induction es with
  | nil => simp [sameEntries]
  | cons e es ih =>
    obtain ⟨k, v⟩ := e
    simp only [sameEntries, Bool.and_eq_true, List.any_eq_true, ih, List.forall_mem_cons]

theorem allAmong_iff : allAmong xs ys ↔ ∀ x ∈ xs, ∃ y ∈ ys, x.same y := by
  induction xs with
  | nil => simp [allAmong]
  | cons x xs ih => simp [allAmong, ih]

theorem list_same :
    (Value.list xs).same w ↔ ∃ ys, w = .list ys ∧ xs.length = ys.length ∧
      ∀ i (_ : i < xs.length) (_ : i < ys.length), xs[i].same ys[i] := by
  cases w <;> simp [same, sameList_iff]

theorem tuple_same :
    (Value.tuple xs).same w ↔ ∃ ys, w = .tuple ys ∧ xs.length = ys.length ∧
      ∀ i (_ : i < xs.length) (_ : i < ys.length), xs[i].same ys[i] := by
  cases w <;> simp [same, sameList_iff]

theorem map_same :
    (Value.map es).same w ↔ ∃ fs, w = .map fs ∧ es.length = fs.length ∧
      ∀ e ∈ es, ∃ f ∈ fs, e.1.same f.1 ∧ e.2.same f.2 := by
  cases w <;> simp [same, sameEntries_iff]

theorem set_same :
    (Value.set xs).same w ↔ ∃ ys, w = .set ys ∧ xs.length = ys.length ∧
      ∀ x ∈ xs, ∃ y ∈ ys, x.same y := by
  cases w <;> simp [same, allAmong_iff]

theorem moment_same {m : Moment} :
    (Value.moment m).same w ↔ ∃ n, w = .moment n ∧ m.same n := by
  cases w <;> simp [same]

/-- The exact value of a number. -/
def amount? (v : Value) : Option (Int ⊕ Bool) := v.number?.bind Number.amount?

/-- What has an exact value is the same as what has the same one. -/
theorem amount_same {x : Int ⊕ Bool} (is : v.amount? = some x) : v.same w ↔ w.amount? = some x := by
  have number {m : Number} (held : m.amount? = some x) :
      w.number?.any m.same ↔ w.amount? = some x := by
    cases found : w.number? with
    | none => simp [amount?, found]
    | some n =>
      rw [amount?, found, Option.bind_some, Option.any_some, Number.same_iff, held]
      exact ⟨fun h => h.2.symm, fun h => ⟨rfl, h.symm⟩⟩
  cases v with
  | bool b | int n =>
    rw [same]
    exact number is
  | real y =>
    cases y with
    | nan mark => cases is
    | _ =>
      rw [same]
      · exact number is
      · intro _ _ _ impossible
        cases impossible
  | _ => cases is

/-- A NaN with a name is the same as itself alone. -/
theorem nan_same {mark : Nat} :
    (Value.real (.nan mark)).same w ↔ mark ≠ 0 ∧ w = .real (.nan mark) := by
  have never (n : Number) : (Number.real (.nan mark)).same n = false := by
    cases n <;> rfl
  cases w with
  | real y =>
    cases y with
    | nan other =>
      simp only [same, Bool.and_eq_true, decide_eq_true_eq, bne_iff_ne, real.injEq,
        Binary64.nan.injEq]
      rw [eq_comm, and_comm]
    | _ => simp [same, number?, never]
  | _ => simp [same, number?, never]

/-- Values that are the same as themselves alone. -/
def isRigid : Value → Bool
  | .null | .str _ | .date _ | .time _ | .bytes _ | .cycle _ | .missing _ => true
  | _ => false

theorem rigid_same (rigid : v.isRigid) : v.same w ↔ w = v := by
  cases v with
  | bool | int | real | moment | list | tuple | map | set => cases rigid
  | _ => cases w <;> simp [same, eq_comm]

/-- Sameness is passed on. -/
theorem same_trans (first : u.same v) (second : v.same w) : u.same w := by
  induction u using byParts generalizing v w with
  | step u ih =>
    cases u with
    | list xs =>
      obtain ⟨ys, rfl, long, each⟩ := list_same.mp first
      obtain ⟨zs, rfl, long', each'⟩ := list_same.mp second
      refine list_same.mpr ⟨zs, rfl, long.trans long', fun i h h' => ?_⟩
      have h'' : i < ys.length := long ▸ h
      exact ih _ (List.getElem_mem h) (each i h h'') (each' i h'' h')
    | tuple xs =>
      obtain ⟨ys, rfl, long, each⟩ := tuple_same.mp first
      obtain ⟨zs, rfl, long', each'⟩ := tuple_same.mp second
      refine tuple_same.mpr ⟨zs, rfl, long.trans long', fun i h h' => ?_⟩
      have h'' : i < ys.length := long ▸ h
      exact ih _ (List.getElem_mem h) (each i h h'') (each' i h'' h')
    | map es =>
      obtain ⟨fs, rfl, long, each⟩ := map_same.mp first
      obtain ⟨gs, rfl, long', each'⟩ := map_same.mp second
      refine map_same.mpr ⟨gs, rfl, long.trans long', fun e inside => ?_⟩
      obtain ⟨f, among, key, value⟩ := each e inside
      obtain ⟨g, among', key', value'⟩ := each' f among
      obtain ⟨k, x⟩ := mem_parts_map inside
      exact ⟨g, among', ih _ k key key', ih _ x value value'⟩
    | set xs =>
      obtain ⟨ys, rfl, long, each⟩ := set_same.mp first
      obtain ⟨zs, rfl, long', each'⟩ := set_same.mp second
      refine set_same.mpr ⟨zs, rfl, long.trans long', fun x inside => ?_⟩
      obtain ⟨y, among, one⟩ := each x inside
      obtain ⟨z, among', two⟩ := each' y among
      exact ⟨z, among', ih x inside one two⟩
    | moment m =>
      obtain ⟨n, rfl, one⟩ := moment_same.mp first
      obtain ⟨o, rfl, two⟩ := moment_same.mp second
      exact moment_same.mpr ⟨o, rfl, Moment.same_trans one two⟩
    | bool | int =>
      have other := (amount_same rfl).mp first
      exact (amount_same rfl).mpr ((amount_same other).mp second)
    | real x =>
      cases x with
      | nan mark =>
        obtain ⟨_, rfl⟩ := nan_same.mp first
        exact second
      | _ =>
        have other := (amount_same rfl).mp first
        exact (amount_same rfl).mpr ((amount_same other).mp second)
    | _ =>
      obtain rfl := (rigid_same rfl).mp first
      exact second

/-! ### Sound values -/

mutual

/-- Whether there is no NaN in a value. A key that is twice in a mapping and a member that is
twice in a set are ruled out too; what is read or built has none. -/
def isSound : Value → Bool
  | .real x => !x.isNaN
  | .list xs => allSound xs
  | .tuple xs => allSound xs
  | .map es => entriesSound es
  | .set xs => membersSound xs
  | _ => true

def allSound : List Value → Bool
  | [] => true
  | x :: xs => isSound x && allSound xs

def entriesSound : List (Value × Value) → Bool
  | [] => true
  | (k, v) :: es =>
    isSound k && isSound v && !es.any (fun later => k.same later.1) && entriesSound es

def membersSound : List Value → Bool
  | [] => true
  | x :: xs => isSound x && !xs.any x.same && membersSound xs

end

theorem allSound_iff : allSound xs ↔ ∀ x ∈ xs, x.isSound := by
  induction xs with
  | nil => simp [allSound]
  | cons x xs ih => simp [allSound, ih]

theorem entriesSound_iff :
    entriesSound es ↔ (∀ e ∈ es, e.1.isSound ∧ e.2.isSound) ∧
      es.Pairwise fun e later => ¬e.1.same later.1 := by
  induction es with
  | nil => simp [entriesSound]
  | cons e es ih =>
    obtain ⟨k, v⟩ := e
    simp only [entriesSound, Bool.and_eq_true, Bool.not_eq_true', List.any_eq_false, ih,
      List.forall_mem_cons, List.pairwise_cons]
    tauto

theorem membersSound_iff :
    membersSound xs ↔ (∀ x ∈ xs, x.isSound) ∧ xs.Pairwise fun x later => ¬x.same later := by
  induction xs with
  | nil => simp [membersSound]
  | cons x xs ih =>
    simp only [membersSound, Bool.and_eq_true, Bool.not_eq_true', List.any_eq_false, ih,
      List.forall_mem_cons, List.pairwise_cons]
    tauto

theorem parts_sound (sound : v.isSound) : ∀ w ∈ v.parts, w.isSound := by
  cases v with
  | list xs | tuple xs =>
    rw [isSound] at sound
    exact allSound_iff.mp sound
  | map es =>
    rw [isSound] at sound
    intro w inside
    obtain ⟨e, among, here⟩ := List.mem_flatMap.mp inside
    obtain ⟨key, value⟩ := (entriesSound_iff.mp sound).1 e among
    simp only [List.mem_cons, List.not_mem_nil, or_false] at here
    rcases here with rfl | rfl
    · exact key
    · exact value
  | set xs =>
    rw [isSound] at sound
    exact (membersSound_iff.mp sound).1
  | _ => exact nofun

theorem amount?_isSome {x : Binary64} (sound : (Value.real x).isSound) :
    ∃ y, (Value.real x).amount? = some y := by
  cases x with
  | nan mark =>
    rw [isSound] at sound
    cases sound
  | _ => exact ⟨_, rfl⟩

theorem same_refl (sound : v.isSound) : v.same v := by
  induction v using byParts with
  | step v ih =>
    have parts {w : Value} (inside : w ∈ v.parts) : w.same w :=
      ih w inside (parts_sound sound w inside)
    cases v with
    | list xs => exact list_same.mpr ⟨xs, rfl, rfl, fun i h _ => parts (List.getElem_mem h)⟩
    | tuple xs => exact tuple_same.mpr ⟨xs, rfl, rfl, fun i h _ => parts (List.getElem_mem h)⟩
    | map es =>
      refine map_same.mpr ⟨es, rfl, rfl, fun e inside => ⟨e, inside, ?_⟩⟩
      obtain ⟨key, value⟩ := mem_parts_map inside
      exact ⟨parts key, parts value⟩
    | set xs => exact set_same.mpr ⟨xs, rfl, rfl, fun x inside => ⟨x, inside, parts inside⟩⟩
    | moment m => exact moment_same.mpr ⟨m, rfl, Moment.same_refl m⟩
    | bool | int => exact (amount_same rfl).mpr rfl
    | real x =>
      obtain ⟨y, is⟩ := amount?_isSome sound
      exact (amount_same is).mpr is
    | _ => exact (rigid_same rfl).mpr rfl

/-- Things that are matched with as many others, no two of them with one, are matched with
all of these. -/
theorem matched {α β : Type} {R : α → β → Prop} {xs : List α} {ys : List β}
    (long : ys.length ≤ xs.length) (each : ∀ x ∈ xs, ∃ y ∈ ys, R x y)
    (apart : xs.Pairwise fun x later => ∀ y, R x y → ¬R later y) :
    ∀ y ∈ ys, ∃ x ∈ xs, R x y := by
  induction xs generalizing ys with
  | nil =>
    obtain rfl := List.length_eq_zero_iff.mp (Nat.le_zero.mp long)
    exact nofun
  | cons x xs ih =>
    obtain ⟨first, apart⟩ := List.pairwise_cons.mp apart
    obtain ⟨here, each⟩ := List.forall_mem_cons.mp each
    obtain ⟨y, inside, match'⟩ := here
    obtain ⟨front, back, rfl⟩ := List.append_of_mem inside
    have others : ∀ x ∈ xs, ∃ y ∈ front ++ back, R x y := by
      intro x' later
      obtain ⟨y', among, other⟩ := each x' later
      rw [List.mem_append, List.mem_cons] at among
      refine ⟨y', List.mem_append.mpr (among.imp_right fun h => h.resolve_left ?_), other⟩
      rintro rfl
      exact first x' later y' match' other
    have rest := ih (by simp at long ⊢; omega) others apart
    intro y' among
    rw [List.mem_append, List.mem_cons] at among
    have split : y' = y ∨ y' ∈ front ++ back := by
      rw [List.mem_append]
      tauto
    rcases split with rfl | later
    · exact ⟨x, List.mem_cons_self, match'⟩
    · obtain ⟨x', inside', other⟩ := rest y' later
      exact ⟨x', List.mem_cons_of_mem x inside', other⟩

/-- What is the same as a sound value goes for it as well: in mappings and sets as many as
there are must be matched, which leaves out none. -/
theorem same_symm (sound : v.isSound) (h : v.same w) : w.same v := by
  induction v using byParts generalizing w with
  | step v ih =>
    have back {x y : Value} (inside : x ∈ v.parts) : x.same y → y.same x :=
      ih x inside (parts_sound sound x inside)
    cases v with
    | list xs =>
      obtain ⟨ys, rfl, long, each⟩ := list_same.mp h
      exact list_same.mpr ⟨xs, rfl, long.symm,
        fun i h h' => back (List.getElem_mem h') (each i h' h)⟩
    | tuple xs =>
      obtain ⟨ys, rfl, long, each⟩ := tuple_same.mp h
      exact tuple_same.mpr ⟨xs, rfl, long.symm,
        fun i h h' => back (List.getElem_mem h') (each i h' h)⟩
    | map es =>
      obtain ⟨fs, rfl, long, each⟩ := map_same.mp h
      rw [isSound] at sound
      refine map_same.mpr ⟨es, rfl, long.symm, fun f among => ?_⟩
      have apart : es.Pairwise fun e later => ∀ f : Value × Value,
          e.1.same f.1 ∧ e.2.same f.2 → ¬(later.1.same f.1 ∧ later.2.same f.2) := by
        refine (entriesSound_iff.mp sound).2.imp_of_mem
          fun {e later} _ inside differ f one two => ?_
        exact differ (same_trans one.1 (back (mem_parts_map inside).1 two.1))
      obtain ⟨e, inside, key, value⟩ := matched (Nat.le_of_eq long.symm) each apart f among
      obtain ⟨k, x⟩ := mem_parts_map inside
      exact ⟨e, inside, back k key, back x value⟩
    | set xs =>
      obtain ⟨ys, rfl, long, each⟩ := set_same.mp h
      rw [isSound] at sound
      refine set_same.mpr ⟨xs, rfl, long.symm, fun y among => ?_⟩
      have apart : xs.Pairwise fun x later => ∀ y : Value, x.same y → ¬later.same y := by
        refine (membersSound_iff.mp sound).2.imp_of_mem
          fun {x later} _ inside differ y one two => ?_
        exact differ (same_trans one (back inside two))
      obtain ⟨x, inside, one⟩ := matched (Nat.le_of_eq long.symm) each apart y among
      exact ⟨x, inside, back inside one⟩
    | moment m =>
      obtain ⟨n, rfl, one⟩ := moment_same.mp h
      exact moment_same.mpr ⟨m, rfl, Moment.same_comm m n ▸ one⟩
    | bool | int => exact (amount_same ((amount_same rfl).mp h)).mpr rfl
    | real x =>
      obtain ⟨y, is⟩ := amount?_isSome sound
      exact (amount_same ((amount_same is).mp h)).mpr is
    | _ =>
      obtain rfl := (rigid_same rfl).mp h
      exact h

end Value
end Quire
