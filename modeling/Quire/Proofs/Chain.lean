import Quire.Notes

/-! Chains of steps of which each may fail: a chain that comes to its end went through
all of them. -/

namespace Quire

variable {α β ε : Type}

theorem bind_eq_ok {x : Except ε α} {f : α → Except ε β} {b : β} :
    (x >>= f) = .ok b ↔ ∃ a, x = .ok a ∧ f a = .ok b := by
  cases x with
  | error e => simp [bind, Except.bind]
  | ok a => simp [bind, Except.bind]

theorem pure_eq_ok {a b : α} : (pure a : Except ε α) = .ok b ↔ b = a :=
  ⟨fun same => (Except.ok.inj same).symm, fun same => congrArg Except.ok same.symm⟩

/-- A chain that goes wrong does so at one of its steps. -/
theorem bind_eq_error {x : Except ε α} {f : α → Except ε β} {e : ε} :
    (x >>= f) = .error e ↔ x = .error e ∨ ∃ a, x = .ok a ∧ f a = .error e := by
  cases x with
  | error e' => simp [bind, Except.bind]
  | ok a => simp [bind, Except.bind]

theorem map_eq_error {x : Except ε α} {f : α → β} {e : ε} :
    x.map f = .error e ↔ x = .error e := by
  cases x with
  | error e' =>
    exact ⟨fun same => congrArg _ (Except.error.inj same),
      fun same => congrArg _ (Except.error.inj same)⟩
  | ok a => exact ⟨nofun, nofun⟩

/-- A mishap on the way is a failure of the whole. -/
theorem lift_eq_ok {x : Except Mishap α} {a : α} :
    (liftM x : Except Failure α) = .ok a ↔ x = .ok a := by
  cases x with
  | error e => exact ⟨nofun, nofun⟩
  | ok b => exact ⟨fun h => congrArg Except.ok (Except.ok.inj h), fun h => congrArg _ h⟩

theorem lift_eq_error {x : Except Mishap α} {e : Failure} :
    (liftM x : Except Failure α) = .error e ↔ ∃ m, x = .error m ∧ e = .mishap m := by
  cases x with
  | error m =>
    constructor
    · exact fun h => ⟨m, rfl, (Except.error.inj h).symm⟩
    · rintro ⟨m', same, rfl⟩
      obtain rfl := Except.error.inj same
      rfl
  | ok a => exact ⟨nofun, nofun⟩

/-- Whether a result comes and passes a test. -/
def attains (x : Except ε α) (test : α → Bool) : Bool :=
  match x with
  | .ok a => test a
  | .error _ => false

theorem attains_iff {x : Except ε α} {test : α → Bool} :
    attains x test = true ↔ ∃ a, x = .ok a ∧ test a = true := by
  cases x with
  | error e => simp [attains]
  | ok a => simp [attains]

theorem Attempt.bind_eq_ok {x : Attempt α} {f : α → Attempt β} {b : β} :
    (x >>= f).result = .ok b ↔ ∃ a, x.result = .ok a ∧ (f a).result = .ok b := by
  change (x.bind f).result = .ok b ↔ _
  rw [Attempt.result_bind]
  exact Quire.bind_eq_ok

/-- A list is gone through when each member gives a result, and these are the results. -/
theorem mapM_cons_eq_ok {f : α → Except ε β} {x : α} {xs : List α} {ys : List β} :
    (x :: xs).mapM f = .ok ys ↔ ∃ y zs, f x = .ok y ∧ xs.mapM f = .ok zs ∧ ys = y :: zs := by
  rw [List.mapM_cons]
  constructor
  · intro all
    obtain ⟨y, first, all⟩ := bind_eq_ok.mp all
    obtain ⟨zs, rest, whole⟩ := bind_eq_ok.mp all
    exact ⟨y, zs, first, rest, (Except.ok.inj whole).symm⟩
  · rintro ⟨y, zs, first, rest, rfl⟩
    rw [first, rest]
    rfl

theorem mapM_append_eq_ok {f : α → Except ε β} {xs ys : List α} {zs : List β} :
    (xs ++ ys).mapM f = .ok zs ↔
      ∃ us vs, xs.mapM f = .ok us ∧ ys.mapM f = .ok vs ∧ zs = us ++ vs := by
  rw [List.mapM_append, bind_eq_ok]
  refine exists_congr fun us => ?_
  constructor
  · rintro ⟨front, whole⟩
    obtain ⟨vs, back, whole⟩ := bind_eq_ok.mp whole
    exact ⟨vs, front, back, (Except.ok.inj whole).symm⟩
  · rintro ⟨vs, front, back, rfl⟩
    exact ⟨front, bind_eq_ok.mpr ⟨vs, back, rfl⟩⟩

theorem mapM_singleton_eq_ok {f : α → Except ε β} {x : α} {ys : List β} :
    [x].mapM f = .ok ys ↔ ∃ y, f x = .ok y ∧ ys = [y] := by
  rw [mapM_cons_eq_ok]
  constructor
  · rintro ⟨y, zs, first, rest, rfl⟩
    obtain rfl := Except.ok.inj rest
    exact ⟨y, first, rfl⟩
  · rintro ⟨y, first, rfl⟩
    exact ⟨y, [], first, rfl, rfl⟩

/-- What fails for a list fails for one of its members. -/
theorem mapM_error {f : α → Except ε β} {xs : List α} {e : ε}
    (failed : xs.mapM f = .error e) : ∃ x ∈ xs, f x = .error e := by
  induction xs with
  | nil => cases failed
  | cons x xs ih =>
    rw [List.mapM_cons] at failed
    rcases bind_eq_error.mp failed with here | ⟨_, _, failed⟩
    · exact ⟨x, List.mem_cons_self, here⟩
    · rcases bind_eq_error.mp failed with later | ⟨_, _, done⟩
      · obtain ⟨y, inside, failed⟩ := ih later
        exact ⟨y, List.mem_cons_of_mem x inside, failed⟩
      · cases done

theorem mapM_eq_ok {f : α → Except ε β} {g : α → β} {xs : List α}
    (each : ∀ x ∈ xs, f x = .ok (g x)) : xs.mapM f = .ok (xs.map g) := by
  induction xs with
  | nil => rfl
  | cons x xs ih =>
    have rest := ih fun y inside => each y (List.mem_cons_of_mem x inside)
    exact mapM_cons_eq_ok.mpr ⟨_, _, each x List.mem_cons_self, rest, rfl⟩

/-- What gives a result for each member does so in any way that agrees there. -/
theorem mapM_eq_ok_of_imp {f g : α → Except ε β} {xs : List α} {ys : List β}
    (agree : ∀ x ∈ xs, ∀ y, f x = .ok y → g x = .ok y) (all : xs.mapM f = .ok ys) :
    xs.mapM g = .ok ys := by
  induction xs generalizing ys with
  | nil => exact all
  | cons x xs ih =>
    obtain ⟨y, zs, first, rest, rfl⟩ := mapM_cons_eq_ok.mp all
    have rest := ih (fun x' inside => agree x' (List.mem_cons_of_mem x inside)) rest
    exact mapM_cons_eq_ok.mpr ⟨y, zs, agree x List.mem_cons_self y first, rest, rfl⟩

/-- Each result is that of some member. -/
theorem mem_of_mapM {f : α → Except ε β} {xs : List α} {ys : List β}
    (all : xs.mapM f = .ok ys) {y : β} (inside : y ∈ ys) : ∃ x ∈ xs, f x = .ok y := by
  induction xs generalizing ys with
  | nil =>
    obtain rfl := Except.ok.inj all
    cases inside
  | cons x xs ih =>
    obtain ⟨z, zs, first, rest, rfl⟩ := mapM_cons_eq_ok.mp all
    rcases List.mem_cons.mp inside with rfl | later
    · exact ⟨x, List.mem_cons_self, first⟩
    · obtain ⟨x', there, made⟩ := ih rest later
      exact ⟨x', List.mem_cons_of_mem x there, made⟩

/-- Each member of a list that is gone through gives a result. -/
theorem exists_of_mapM {f : α → Except ε β} {xs : List α} {ys : List β}
    (all : xs.mapM f = .ok ys) {x : α} (inside : x ∈ xs) : ∃ y ∈ ys, f x = .ok y := by
  induction xs generalizing ys with
  | nil => cases inside
  | cons x' xs ih =>
    obtain ⟨y, zs, first, rest, rfl⟩ := mapM_cons_eq_ok.mp all
    rcases List.mem_cons.mp inside with rfl | later
    · exact ⟨y, List.mem_cons_self, first⟩
    · obtain ⟨y', there, made⟩ := ih rest later
      exact ⟨y', List.mem_cons_of_mem y there, made⟩

/-- What goes wrong, if anything does. -/
def trouble (x : Except ε α) : Except ε Unit := x.map fun _ => ()

section Alike

variable {γ δ ζ : Type} {x : Except ε α} {y : Except ε β} {f : α → Except ε γ} {g : β → Except ε δ}

end Alike

end Quire
