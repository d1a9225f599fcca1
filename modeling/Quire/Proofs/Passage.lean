import Quire.Proofs.Chain

/-! What may come of a reading. Where it is a way through places, each reader comes from the place
it is at to one that lies ahead, or meets trouble there; a chain of readers does so too. -/

namespace Quire

/-- A result of some sort, or trouble of some sort. -/
structure Gives {ε α : Type} (bad : ε → Prop) (good : α → Prop) (x : Except ε α) : Prop where
  found : ∀ a, x = .ok a → good a
  failed : ∀ e, x = .error e → bad e

namespace Gives

variable {ε α β : Type} {bad : ε → Prop} {good good' : α → Prop} {better : β → Prop}

theorem ok {a : α} (holds : good a) : Gives bad good (.ok a : Except ε α) :=
  ⟨fun _ same => Except.ok.inj same ▸ holds, nofun⟩

theorem error {e : ε} (holds : bad e) : Gives bad good (.error e : Except ε α) :=
  ⟨nofun, fun _ same => Except.error.inj same ▸ holds⟩

theorem mono {x : Except ε α} (gives : Gives bad good x) (more : ∀ a, good a → good' a) :
    Gives bad good' x :=
  ⟨fun a came => more a (gives.found a came), gives.failed⟩

theorem bind {x : Except ε α} {f : α → Except ε β} (first : Gives bad good x)
    (next : ∀ a, good a → Gives bad better (f a)) : Gives bad better (x >>= f) where
  found b came := by
    obtain ⟨a, read, came⟩ := bind_eq_ok.mp came
    exact (next a (first.found a read)).found b came
  failed e went := by
    rcases bind_eq_error.mp went with here | ⟨a, read, later⟩
    · exact first.failed e here
    · exact (next a (first.found a read)).failed e later

theorem map {x : Except ε α} {f : α → β} (gives : Gives bad good x)
    (more : ∀ a, good a → better (f a)) : Gives bad better (f <$> x) := by
  cases x with
  | error e => exact .error (gives.failed e rfl)
  | ok a => exact .ok (more a (gives.found a rfl))

theorem ite {x y : Except ε α} {test : Prop} [Decidable test] (first : Gives bad good x)
    (second : Gives bad good y) : Gives bad good (if test then x else y) := by
  split
  · exact first
  · exact second

theorem mapM {f : α → Except ε β} {xs : List α} (each : ∀ x ∈ xs, Gives bad better (f x)) :
    Gives bad (fun ys => ∀ y ∈ ys, better y) (xs.mapM f) where
  found ys came y inside := by
    obtain ⟨x, there, made⟩ := mem_of_mapM came inside
    exact (each x there).found y made
  failed e went := by
    obtain ⟨x, there, made⟩ := mapM_error went
    exact (each x there).failed e made

theorem forM {f : α → Except ε Unit} {xs : List α}
    (each : ∀ x ∈ xs, Gives bad (fun _ => True) (f x)) :
    Gives bad (fun _ => True) (xs.forM f) := by
  induction xs with
  | nil => exact .ok trivial
  | cons x xs ih =>
    exact (each x List.mem_cons_self).bind fun _ _ =>
      ih fun y inside => each y (List.mem_cons_of_mem x inside)

theorem foldlM {f : β → α → Except ε β} {xs : List α}
    (each : ∀ b, ∀ x ∈ xs, Gives bad (fun _ => True) (f b x)) (b : β) :
    Gives bad (fun _ => True) (xs.foldlM f b) := by
  induction xs generalizing b with
  | nil => exact .ok trivial
  | cons x xs ih =>
    exact (each b x List.mem_cons_self).bind fun c _ =>
      ih (fun b y inside => each b y (List.mem_cons_of_mem x inside)) c

end Gives

/-- Which places lie ahead of a place, and what trouble may be met from there on. -/
structure Passage (σ ε : Type) where
  ahead : σ → σ → Prop
  meets : σ → ε → Prop
  refl (s : σ) : ahead s s
  trans {s t u : σ} : ahead s t → ahead t u → ahead s u
  sooner {s t : σ} {e : ε} : ahead s t → meets t e → meets s e

namespace Passage

variable {σ ε α β : Type} {p : Passage σ ε} {r : α → σ} {q : β → σ} {s t : σ}

/-- What is read from a place leaves off at a place ahead, and what goes wrong is met there. -/
abbrev Through (p : Passage σ ε) (r : α → σ) (s : σ) (x : Except ε α) : Prop :=
  Gives (p.meets s) (fun a => p.ahead s (r a)) x

theorem Through.from {x : Except ε α} (through : p.Through r t x) (ahead : p.ahead s t) :
    p.Through r s x where
  found a came := p.trans ahead (through.found a came)
  failed e went := p.sooner ahead (through.failed e went)

theorem Through.bind {x : Except ε α} {f : α → Except ε β} (first : p.Through r s x)
    (next : ∀ a, x = .ok a → p.Through q (r a) (f a)) : p.Through q s (x >>= f) where
  found b came := by
    obtain ⟨a, read, came⟩ := bind_eq_ok.mp came
    exact p.trans (first.found a read) ((next a read).found b came)
  failed e went := by
    rcases bind_eq_error.mp went with here | ⟨a, read, later⟩
    · exact first.failed e here
    · exact p.sooner (first.found a read) ((next a read).failed e later)

/-- A test that reads nothing. -/
theorem Through.guard {x : Except ε α} {f : α → Except ε β}
    (fails : ∀ e, x = .error e → p.meets s e)
    (next : ∀ a, x = .ok a → p.Through q s (f a)) : p.Through q s (x >>= f) :=
  Through.bind (r := fun _ => s) ⟨fun _ _ => p.refl s, fails⟩ next

end Passage
end Quire
