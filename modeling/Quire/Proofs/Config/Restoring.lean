import Quire.Config.Reading
import Quire.Proofs.Chain
import Quire.Proofs.Config.Declared
import Quire.Proofs.Config.Reporting
import Quire.Proofs.Rounding

/-! Single settings read again from a report, and groups of them. A setting of the kind that its
reader is for comes back as an equal one of that kind: a text, a flag or a list of texts as it
is, a number as one of the reader's own. Null is left out of a report, and what is left out comes
back as the default of its place. -/

namespace Quire

open Value Coercion

/-! ### Groups that are equal -/

/-- Groups of settings that are equal, or equal values in the place of groups. -/
inductive Section.Same {α : Type} (same : α → α → Prop) : Section α → Section α → Prop
  | fields {a b : α} (equal : same a b) : Section.Same same (.fields a) (.fields b)
  | other {v w : Value} (equal : v.same w) : Section.Same same (.other v) (.other w)

namespace Section

variable {α : Type} {s t : Section α} {held : α → Prop} {a : α}

theorem Has.of_fields (has : s.Has held) (here : s = .fields a) : held a := by
  obtain ⟨b, rfl, is⟩ := has
  cases here
  exact is

/-- Equal groups have equal reports if it is so for what is in them. -/
theorem Same.report {same : α → α → Prop} {report : α → Value} (equal : t.Same same s)
    (each : ∀ a b, s = .fields a → t = .fields b → same b a → (report b).same (report a)) :
    (t.report report).same (s.report report) := by
  cases equal with
  | fields equal => exact each _ _ rfl rfl equal
  | other equal => exact equal

end Section

/-! ### Kinds of settings -/

namespace Value

/-- A floating point number, or a whole number that is one. -/
def IsReal (v : Value) : Prop :=
  (∃ x : Binary64, x.isNaN = false ∧ v = .real x) ∨
    ∃ n, v.number? = some (.whole n) ∧ Binary64.IsExact n.natAbs

/-- A level of the log, by its name or as a number. -/
def IsLevel (v : Value) : Prop := v.IsText ∨ v.IsWhole

def IsTexts (v : Value) : Prop := ∃ names : List String, v = .list (names.map .str)

end Value

namespace Coercion

/-- Settings of a kind are reported as they are, and read as equal ones of the kind. -/
structure Restores (convert : Value → Except Mishap Value) (kind : Value → Prop) : Prop where
  plain {v : Value} (is : kind v) : v.reported? = some v ∧ v.isNull = false
  read {v : Value} (is : kind v) : ∃ w, convert v = .ok w ∧ kind w ∧ w.same v

theorem text_restores : Restores text IsText where
  plain := by
    rintro _ ⟨s, rfl⟩
    exact ⟨rfl, rfl⟩
  read := by
    rintro _ ⟨s, rfl⟩
    exact ⟨.str s, rfl, ⟨s, rfl⟩, by simp⟩

theorem flag_restores : Restores flag IsFlag where
  plain := by
    rintro _ ⟨b, rfl⟩
    exact ⟨rfl, rfl⟩
  read := by
    rintro _ ⟨b, rfl⟩
    exact ⟨.bool b, rfl, ⟨b, rfl⟩, (amount_same rfl).mpr rfl⟩

theorem plain_number {v : Value} {m : Number} (number : v.number? = some m) :
    v.reported? = some v ∧ v.isNull = false := by
  cases v with
  | bool | int | real => exact ⟨rfl, rfl⟩
  | _ => cases number

theorem whole_restores : Restores whole IsWhole where
  plain := fun ⟨_, number⟩ => plain_number number
  read := by
    rintro v ⟨n, number⟩
    refine ⟨.int n, ?_, ⟨n, rfl⟩, ?_⟩
    · cases v with
      | bool | int =>
        cases number
        rfl
      | _ => cases number
    · refine (amount_same rfl).mpr ?_
      rw [amount?, number]
      rfl

theorem real_of_number {v : Value} {n : Int} {negative : Bool} {units : Nat}
    (number : v.number? = some (.whole n)) (rounded : Binary64.ofInt n = .finite negative units) :
    real v = .ok (.real (.finite negative units)) := by
  cases v with
  | bool b =>
    cases number
    rw [real, rounded]
  | int =>
    cases number
    rw [real, Number.toReal?_whole rounded]
    rfl
  | _ => cases number

theorem real_restores : Restores real IsReal where
  plain := by
    rintro v (⟨x, _, rfl⟩ | ⟨n, number, _⟩)
    · exact ⟨rfl, rfl⟩
    · exact plain_number number
  read := by
    rintro v (⟨x, sound, rfl⟩ | ⟨n, number, exact'⟩)
    · refine ⟨.real x, rfl, .inl ⟨x, sound, rfl⟩, same_refl ?_⟩
      simp [isSound, sound]
    · have read := real_of_number number (Binary64.ofInt_exact exact')
      refine ⟨_, read, .inl ⟨_, rfl, rfl⟩, (amount_same rfl).mpr ?_⟩
      rw [amount?, number]
      simp only [Option.bind_some, Number.amount?, Option.some.injEq, Sum.inl.injEq]
      by_cases negative : n < 0
      · rw [decide_eq_true negative, if_pos rfl]
        push_cast
        rw [abs_of_neg negative]
        ring
      · rw [decide_eq_false negative, if_neg Bool.false_ne_true]
        push_cast
        rw [abs_of_nonneg (by omega)]

theorem texts_restores : Restores texts IsTexts where
  plain := by
    rintro _ ⟨names, rfl⟩
    have items : reportedItems (names.map .str) = names.map .str := by
      induction names with
      | nil => rfl
      | cons name names ih =>
        rw [List.map_cons, reportedItems, ih]
        rfl
    rw [reported?, items]
    exact ⟨rfl, rfl⟩
  read := by
    rintro _ ⟨names, rfl⟩
    have items : (names.map .str).mapM (unlessNull text) = .ok (names.map .str) := by
      rw [List.mapM_map]
      exact mapM_eq_ok fun name _ => rfl
    refine ⟨.list (names.map .str), ?_, ⟨names, rfl⟩, same_refl ?_⟩
    · change ((names.map .str).mapM (unlessNull text) >>= _) = _
      rw [items]
      rfl
    · rw [isSound, allSound_iff]
      simp [isSound]

theorem anything_restores : Restores anything IsLevel where
  plain := by
    rintro _ (⟨s, rfl⟩ | ⟨_, number⟩)
    · exact ⟨rfl, rfl⟩
    · exact plain_number number
  read := by
    refine fun {v} is => ⟨v, rfl, is, ?_⟩
    rcases is with ⟨s, rfl⟩ | ⟨n, number⟩
    · simp
    · have amount : v.amount? = some (.inl (n * Binary64.one)) := by
        rw [amount?, number]
        rfl
      exact (amount_same amount).mpr amount

section Fields

variable {name : String} {es : Entries} {v : Value}
  {convert : Value → Except Mishap Value} {kind : Value → Prop}

theorem Restores.told (restores : Restores convert kind) (is : kind v) : v.Told := by
  obtain ⟨told, there⟩ := restores.plain is
  rw [Told, told, nonNull, there]
  rfl

/-- A setting of a kind comes back from an entry that holds it as it was reported. -/
theorem Restores.value (restores : Restores convert kind) (is : kind v)
    (held : Entries.field? es name = v.reported?) :
    ∃ w, (∀ table default, Coercion.value table es name default convert = .ok w) ∧
      kind w ∧ w.same v := by
  obtain ⟨w, read, is', same⟩ := restores.read is
  obtain ⟨told, there⟩ := restores.plain is
  rw [told] at held
  refine ⟨w, fun table default => ?_, is', same⟩
  unfold Coercion.value field
  rw [held]
  cases v with
  | null => cases there
  | _ =>
    dsimp only
    rw [read]
    rfl

/-- Where null is the default it comes back as well. -/
theorem Restores.nullable (restores : Restores convert kind) (is : v.OrNull kind)
    (held : Entries.field? es name = v.reported?) :
    ∃ w, (∀ table, Coercion.value table es name .null convert = .ok w) ∧
      w.OrNull kind ∧ w.same v := by
  rcases is with rfl | is
  · refine ⟨.null, fun table => ?_, .inl rfl, (rigid_same rfl).mpr rfl⟩
    unfold Coercion.value field
    rw [held]
    rfl
  · obtain ⟨w, read, is', same⟩ := restores.value is held
    exact ⟨w, fun table => read table .null, .inr is', same⟩

theorem Restores.orNull (restores : Restores convert kind) (is : v.OrNull kind) : v.Told := by
  rcases is with rfl | is
  · rfl
  · exact restores.told is

end Fields

/-- A group of a kind has a report, and from the report a group is read that answers to it. -/
structure Regains {α : Type} (report : α → Value) (convert : Value → Outcome α)
    (held : α → Prop) (answers : α → α → Prop) : Prop where
  told {a : α} (is : held a) : (report a).Told
  there {a : α} (is : held a) : (report a).isNull = false
  read {a : α} (is : held a) : ∃ b, convert (report a) = .ok b ∧ held b ∧ answers b a

section Groups

variable {α : Type} {report : α → Value} {convert : Value → Outcome α} {held : α → Prop}
  {answers : α → α → Prop} {s : Section α} {name : String} {es : Entries}

theorem Regains.told_report (regains : Regains report convert held answers) (has : s.Has held) :
    (s.report report).Told := by
  obtain ⟨a, rfl, is⟩ := has
  exact regains.told is

/-- A group comes back from an entry that holds its report. -/
theorem Regains.inner (regains : Regains report convert held answers) (has : s.Has held)
    (there : Entries.field? es name = (s.report report).reported?) :
    ∃ t, (∀ table default, Coercion.inner table es name default convert = .ok t) ∧
      t.Has held ∧ t.Same answers s := by
  obtain ⟨a, rfl, is⟩ := has
  obtain ⟨b, read, is', same⟩ := regains.read is
  refine ⟨.fields b, fun table default => ?_, ⟨b, rfl, is'⟩, .fields same⟩
  have some' := regains.there is
  rw [Section.report, (regains.told is).reported some'] at there
  unfold Coercion.inner field
  rw [there]
  generalize report a = v at read some'
  cases v with
  | null => cases some'
  | _ =>
    dsimp only
    rw [read]
    rfl

/-- Where null is the default of the group it comes back as well. -/
theorem Regains.nullable (regains : Regains report convert held answers)
    (is : s = .other .null ∨ s.Has held)
    (there : Entries.field? es name = (s.report report).reported?) :
    ∃ t, (∀ table, Coercion.inner table es name (.other .null) convert = .ok t) ∧
      (t = .other .null ∨ t.Has held) ∧ t.Same answers s := by
  rcases is with rfl | has
  · refine ⟨.other .null, fun table => ?_, .inl rfl, .other ((rigid_same rfl).mpr rfl)⟩
    unfold Coercion.inner field
    rw [there]
    rfl
  · obtain ⟨t, read, has', same⟩ := regains.inner has there
    exact ⟨t, fun table => read table _, .inr has', same⟩

theorem Regains.told_nullable (regains : Regains report convert held answers)
    (is : s = .other .null ∨ s.Has held) : (s.report report).Told := by
  rcases is with rfl | has
  · rfl
  · exact regains.told_report has

end Groups

end Coercion

end Quire
