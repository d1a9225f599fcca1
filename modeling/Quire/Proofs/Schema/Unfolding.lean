import Mathlib.Logic.Relation
import Mathlib.Order.WellFounded
import Quire.Proofs.Entries
import Quire.Schema.Reference

/-! What a definition stands for once every reference is replaced by what it names,
again and again. Nothing here looks for circles: a definition unfolds to a value, or
meets a pointer that leads nowhere, or its unfolding has no end. -/

namespace Quire.Schema

open Relation

/-- What a reference names inside the definition. -/
def named (root : Entries) (reference : String) : Except ReferenceError Value :=
  Pointer.resolve root (cutReference reference).2

/-- A value and what it stands for, when that is finite. A mapping with a reference
stands for what the target stands for, under the entries beside the reference; they
do not count when that is no mapping. -/
inductive Unfolds (root : Entries) : Value → Value → Prop
  | leaf {v : Value} (noList : v.list? = none) (noMap : v.map? = none) : Unfolds root v v
  | nil : Unfolds root (.list []) (.list [])
  | cons {x y : Value} {xs ys : List Value} (first : Unfolds root x y)
      (rest : Unfolds root (.list xs) (.list ys)) : Unfolds root (.list (x :: xs)) (.list (y :: ys))
  | empty : Unfolds root (.map []) (.map [])
  | field {k v w : Value} {es fs : Entries} (plain : referenceOf? ((k, v) :: es) = none)
      (first : Unfolds root v w) (rest : Unfolds root (.map es) (.map fs)) :
      Unfolds root (.map ((k, v) :: es)) (.map ((k, w) :: fs))
  | merged {es ts fs : Entries} {reference : String} {target : Value}
      (refers : referenceOf? es = some reference) (names : named root reference = .ok target)
      (there : Unfolds root target (.map ts))
      (beside : Unfolds root (.map (Entries.erase es referenceKey)) (.map fs)) :
      Unfolds root (.map es) (.map (Entries.update ts fs))
  | replaced {es : Entries} {reference : String} {target r : Value}
      (refers : referenceOf? es = some reference) (names : named root reference = .ok target)
      (there : Unfolds root target r) (noMap : r.map? = none) : Unfolds root (.map es) r

/-- The values whose unfolding is begun while one is being unfolded, in the order of
the document: what comes later waits until what comes before it is finished. -/
inductive ComesTo (root : Entries) : Value → Value → Prop
  | item (x : Value) (xs : List Value) : ComesTo root (.list (x :: xs)) x
  | items {x y : Value} (xs : List Value) (first : Unfolds root x y) :
      ComesTo root (.list (x :: xs)) (.list xs)
  | field {k v : Value} {es : Entries} (plain : referenceOf? ((k, v) :: es) = none) :
      ComesTo root (.map ((k, v) :: es)) v
  | fields {k v w : Value} {es : Entries} (plain : referenceOf? ((k, v) :: es) = none)
      (first : Unfolds root v w) : ComesTo root (.map ((k, v) :: es)) (.map es)
  | target {es : Entries} {reference : String} {target : Value}
      (refers : referenceOf? es = some reference) (names : named root reference = .ok target) :
      ComesTo root (.map es) target
  | beside {es ts : Entries} {reference : String} {target : Value}
      (refers : referenceOf? es = some reference) (names : named root reference = .ok target)
      (there : Unfolds root target (.map ts)) :
      ComesTo root (.map es) (.map (Entries.erase es referenceKey))

/-- The unfolding comes to a reference whose pointer leads nowhere. -/
def Meets (root : Entries) (v : Value) (pointer : String) : Prop :=
  ∃ es reference, ReflTransGen (ComesTo root) v (.map es) ∧ referenceOf? es = some reference ∧
    named root reference = .error (.unresolvable pointer)

/-- The unfolding goes on for ever. -/
def Endless (root : Entries) (v : Value) : Prop :=
  ∃ path : Nat → Value, path 0 = v ∧ ∀ n, ComesTo root (path n) (path (n + 1))

variable {root : Entries}

/-- A list unfolds item by item. -/
theorem Unfolds.cons_inv {x r : Value} {xs : List Value} (u : Unfolds root (.list (x :: xs)) r) :
    ∃ y ys, r = .list (y :: ys) ∧ Unfolds root x y ∧ Unfolds root (.list xs) (.list ys) := by
  cases u with
  | leaf noList => simp [Value.list?] at noList
  | cons first rest => exact ⟨_, _, rfl, first, rest⟩

/-- A mapping without a reference unfolds entry by entry. -/
theorem Unfolds.field_inv {k v r : Value} {es : Entries}
    (plain : referenceOf? ((k, v) :: es) = none) (u : Unfolds root (.map ((k, v) :: es)) r) :
    ∃ w fs, r = .map ((k, w) :: fs) ∧ Unfolds root v w ∧ Unfolds root (.map es) (.map fs) := by
  cases u with
  | leaf _ noMap => simp [Value.map?] at noMap
  | field _ first rest => exact ⟨_, _, rfl, first, rest⟩
  | merged refers => simp [plain] at refers
  | replaced refers => simp [plain] at refers

/-- A mapping with a reference unfolds only through its target, and then either
gives way to that or is laid over it. -/
theorem Unfolds.refers_inv {es : Entries} {reference : String} {r : Value}
    (refers : referenceOf? es = some reference) (u : Unfolds root (.map es) r) :
    ∃ target t, named root reference = .ok target ∧ Unfolds root target t ∧
      ((t.map? = none ∧ r = t) ∨ ∃ ts fs, t = .map ts ∧
        Unfolds root (.map (Entries.erase es referenceKey)) (.map fs) ∧
        r = .map (Entries.update ts fs)) := by
  cases u with
  | leaf _ noMap => simp [Value.map?] at noMap
  | empty => simp [referenceOf?] at refers
  | field plain => simp [plain] at refers
  | merged refers' names there beside =>
    obtain rfl := Option.some.inj (refers.symm.trans refers')
    exact ⟨_, _, names, there, .inr ⟨_, _, rfl, beside, rfl⟩⟩
  | replaced refers' names there noMap =>
    obtain rfl := Option.some.inj (refers.symm.trans refers')
    exact ⟨_, _, names, there, .inl ⟨noMap, rfl⟩⟩

theorem ComesTo.cons_inv {x w : Value} {xs : List Value} (step : ComesTo root (.list (x :: xs)) w) :
    w = x ∨ w = .list xs ∧ ∃ y, Unfolds root x y := by
  cases step with
  | item => exact .inl rfl
  | items _ first => exact .inr ⟨rfl, _, first⟩

theorem ComesTo.field_inv {k v w : Value} {es : Entries}
    (plain : referenceOf? ((k, v) :: es) = none) (step : ComesTo root (.map ((k, v) :: es)) w) :
    w = v ∨ w = .map es ∧ ∃ u, Unfolds root v u := by
  cases step with
  | field => exact .inl rfl
  | fields _ first => exact .inr ⟨rfl, _, first⟩
  | target refers => simp [plain] at refers
  | beside refers => simp [plain] at refers

theorem ComesTo.refers_inv {es : Entries} {reference : String} {w : Value}
    (refers : referenceOf? es = some reference) (step : ComesTo root (.map es) w) :
    ∃ target, named root reference = .ok target ∧
      (w = target ∨ w = .map (Entries.erase es referenceKey) ∧
        ∃ ts, Unfolds root target (.map ts)) := by
  cases step with
  | field plain => simp [plain] at refers
  | fields plain => simp [plain] at refers
  | target refers' names =>
    obtain rfl := Option.some.inj (refers.symm.trans refers')
    exact ⟨_, names, .inl rfl⟩
  | beside refers' names there =>
    obtain rfl := Option.some.inj (refers.symm.trans refers')
    exact ⟨_, names, .inr ⟨rfl, _, there⟩⟩

/-- A value stands for one thing only. -/
theorem Unfolds.unique {v r s : Value} (one : Unfolds root v r) (other : Unfolds root v s) :
    r = s := by
  induction one generalizing s with
  | leaf noList noMap =>
    cases other with
    | leaf => rfl
    | _ => simp [Value.list?, Value.map?] at noList noMap
  | nil =>
    cases other with
    | leaf noList => simp [Value.list?] at noList
    | nil => rfl
  | cons _ _ ihFirst ihRest =>
    obtain ⟨y, ys, rfl, first, rest⟩ := other.cons_inv
    rw [ihFirst first, Value.list.inj (ihRest rest)]
  | empty =>
    cases other with
    | leaf _ noMap => simp [Value.map?] at noMap
    | empty => rfl
    | merged refers => simp [referenceOf?] at refers
    | replaced refers => simp [referenceOf?] at refers
  | field plain _ _ ihFirst ihRest =>
    obtain ⟨w, fs, rfl, first, rest⟩ := other.field_inv plain
    rw [ihFirst first, Value.map.inj (ihRest rest)]
  | merged refers names _ _ ihThere ihBeside =>
    obtain ⟨target, t, names', there, choice⟩ := other.refers_inv refers
    obtain rfl := Except.ok.inj (names.symm.trans names')
    obtain rfl := ihThere there
    rcases choice with ⟨noMap, _⟩ | ⟨ts, fs, eq, beside, rfl⟩
    · simp [Value.map?] at noMap
    · rw [Value.map.inj eq, Value.map.inj (ihBeside beside)]
  | replaced refers names _ noMap ihThere =>
    obtain ⟨target, t, names', there, choice⟩ := other.refers_inv refers
    obtain rfl := Except.ok.inj (names.symm.trans names')
    obtain rfl := ihThere there
    rcases choice with ⟨_, rfl⟩ | ⟨ts, fs, rfl, _, _⟩
    · rfl
    · simp [Value.map?] at noMap

/-- Whatever the unfolding of a value comes to is unfolded itself. -/
theorem Unfolds.comesTo {v r w : Value} (u : Unfolds root v r) (step : ComesTo root v w) :
    ∃ s, Unfolds root w s := by
  cases step with
  | item =>
    obtain ⟨y, _, _, first, _⟩ := u.cons_inv
    exact ⟨y, first⟩
  | items =>
    obtain ⟨_, ys, _, _, rest⟩ := u.cons_inv
    exact ⟨_, rest⟩
  | field plain =>
    obtain ⟨w, _, _, first, _⟩ := u.field_inv plain
    exact ⟨w, first⟩
  | fields plain =>
    obtain ⟨_, fs, _, _, rest⟩ := u.field_inv plain
    exact ⟨_, rest⟩
  | target refers names =>
    obtain ⟨_, t, names', there, _⟩ := u.refers_inv refers
    obtain rfl := Except.ok.inj (names.symm.trans names')
    exact ⟨t, there⟩
  | beside refers names there =>
    obtain ⟨_, t, names', there', choice⟩ := u.refers_inv refers
    obtain rfl := Except.ok.inj (names.symm.trans names')
    obtain rfl := there.unique there'
    rcases choice with ⟨noMap, _⟩ | ⟨_, fs, _, beside, _⟩
    · simp [Value.map?] at noMap
    · exact ⟨_, beside⟩

/-- Of two values a value comes to, one is finished before the other is begun. -/
theorem ComesTo.apart {v a b : Value} (one : ComesTo root v a) (other : ComesTo root v b) :
    a = b ∨ (∃ r, Unfolds root a r) ∨ ∃ r, Unfolds root b r := by
  cases one with
  | item =>
    rcases other.cons_inv with rfl | ⟨_, first⟩
    · exact .inl rfl
    · exact .inr (.inl first)
  | items _ first =>
    rcases other.cons_inv with rfl | ⟨rfl, _⟩
    · exact .inr (.inr ⟨_, first⟩)
    · exact .inl rfl
  | field plain =>
    rcases other.field_inv plain with rfl | ⟨_, first⟩
    · exact .inl rfl
    · exact .inr (.inl first)
  | fields plain first =>
    rcases other.field_inv plain with rfl | ⟨rfl, _⟩
    · exact .inr (.inr ⟨_, first⟩)
    · exact .inl rfl
  | target refers names =>
    obtain ⟨_, names', rfl | ⟨_, ts, there⟩⟩ := other.refers_inv refers
    · exact .inl (Except.ok.inj (names.symm.trans names'))
    · obtain rfl := Except.ok.inj (names.symm.trans names')
      exact .inr (.inl ⟨_, there⟩)
  | beside refers names there =>
    obtain ⟨_, names', rfl | ⟨rfl, _⟩⟩ := other.refers_inv refers
    · obtain rfl := Except.ok.inj (names.symm.trans names')
      exact .inr (.inr ⟨_, there⟩)
    · exact .inl rfl

/-- A reference that leads nowhere is the end: nothing comes after it. -/
theorem not_comesTo_of_nowhere {es : Entries} {reference : String} {e : ReferenceError} {w : Value}
    (refers : referenceOf? es = some reference) (nowhere : named root reference = .error e) :
    ¬ComesTo root (.map es) w := by
  intro step
  obtain ⟨_, names, _⟩ := step.refers_inv refers
  simp [names] at nowhere

theorem Meets.head {v w : Value} {pointer : String} (step : ComesTo root v w)
    (m : Meets root w pointer) : Meets root v pointer := by
  obtain ⟨es, reference, way, refers, nowhere⟩ := m
  exact ⟨es, reference, .head step way, refers, nowhere⟩

theorem Unfolds.not_meets {v r : Value} (u : Unfolds root v r) (pointer : String) :
    ¬Meets root v pointer := by
  rintro ⟨es, reference, way, refers, nowhere⟩
  induction way using ReflTransGen.head_induction_on generalizing r with
  | refl =>
    obtain ⟨_, _, names, _⟩ := u.refers_inv refers
    simp [names] at nowhere
  | head step _ ih =>
    obtain ⟨s, next⟩ := u.comesTo step
    exact ih next

/-- The pointer that is met is met alone: it is the first in the order of the document. -/
theorem Meets.unique {v : Value} {p q : String} (one : Meets root v p) (other : Meets root v q) :
    p = q := by
  obtain ⟨es, reference, way, refers, nowhere⟩ := one
  induction way using ReflTransGen.head_induction_on with
  | refl =>
    obtain ⟨es', reference', way', refers', nowhere'⟩ := other
    rcases way'.cases_head with eq | ⟨_, step, _⟩
    · obtain rfl := Value.map.inj eq
      obtain rfl := Option.some.inj (refers.symm.trans refers')
      exact ReferenceError.unresolvable.inj (Except.error.inj (nowhere.symm.trans nowhere'))
    · exact absurd step (not_comesTo_of_nowhere refers nowhere)
  | @head v b step way ih =>
    obtain ⟨es', reference', way', refers', nowhere'⟩ := other
    rcases way'.cases_head with rfl | ⟨c, step', way'⟩
    · exact absurd step (not_comesTo_of_nowhere refers' nowhere')
    · have met : Meets root b p := ⟨es, reference, way, refers, nowhere⟩
      have met' : Meets root c q := ⟨es', reference', way', refers', nowhere'⟩
      rcases step.apart step' with rfl | ⟨_, u⟩ | ⟨_, u⟩
      · exact ih met'
      · exact absurd met (u.not_meets p)
      · exact absurd met' (u.not_meets q)

theorem endless_iff {v : Value} : Endless root v ↔ ¬Acc (fun w u => ComesTo root u w) v := by
  rw [not_acc_iff_exists_descending_chain]
  rfl

theorem Endless.head {v w : Value} (step : ComesTo root v w) (e : Endless root w) :
    Endless root v := by
  rw [endless_iff] at e ⊢
  exact fun ends => e (ends.inv step)

/-- Going round in a circle has no end. -/
theorem Endless.of_circle {v : Value} (circle : TransGen (ComesTo root) v v) : Endless root v := by
  rw [endless_iff]
  intro ends
  have below : TransGen (fun w u => ComesTo root u w) v v := transGen_swap.mp circle
  have ended := ends.transGen
  clear circle ends
  induction ended with
  | intro u _ ih => exact ih u below below

theorem Unfolds.not_endless {v r : Value} (u : Unfolds root v r) : ¬Endless root v := by
  rw [endless_iff, not_not]
  induction u with
  | leaf noList noMap =>
    refine ⟨_, fun w step => ?_⟩
    cases step <;> simp [Value.list?, Value.map?] at noList noMap
  | nil => exact ⟨_, nofun⟩
  | cons _ _ ihFirst ihRest =>
    refine ⟨_, fun w step => ?_⟩
    rcases step.cons_inv with rfl | ⟨rfl, _⟩
    · exact ihFirst
    · exact ihRest
  | empty =>
    refine ⟨_, fun w step => ?_⟩
    cases step <;> simp [referenceOf?] at *
  | field plain _ _ ihFirst ihRest =>
    refine ⟨_, fun w step => ?_⟩
    rcases step.field_inv plain with rfl | ⟨rfl, _⟩
    · exact ihFirst
    · exact ihRest
  | merged refers names _ _ ihThere ihBeside =>
    refine ⟨_, fun w step => ?_⟩
    obtain ⟨_, names', rfl | ⟨rfl, _⟩⟩ := step.refers_inv refers
    · exact Except.ok.inj (names.symm.trans names') ▸ ihThere
    · exact ihBeside
  | replaced refers names there noMap ihThere =>
    refine ⟨_, fun w step => ?_⟩
    obtain ⟨_, names', rfl | ⟨rfl, ts, there'⟩⟩ := step.refers_inv refers
    · exact Except.ok.inj (names.symm.trans names') ▸ ihThere
    · obtain rfl := Except.ok.inj (names.symm.trans names')
      rw [there.unique there'] at noMap
      simp [Value.map?] at noMap

theorem Meets.not_endless {v : Value} {pointer : String} (m : Meets root v pointer) :
    ¬Endless root v := by
  obtain ⟨es, reference, way, refers, nowhere⟩ := m
  induction way using ReflTransGen.head_induction_on with
  | refl =>
    rintro ⟨path, start, steps⟩
    exact not_comesTo_of_nowhere refers nowhere (start ▸ steps 0)
  | @head v b step way ih =>
    rintro ⟨path, start, steps⟩
    have later : Endless root (path 1) := ⟨fun n => path (n + 1), rfl, fun n => steps (n + 1)⟩
    rcases step.apart (start ▸ steps 0) with eq | ⟨_, u⟩ | ⟨_, u⟩
    · exact ih (eq ▸ later)
    · exact u.not_meets pointer ⟨es, reference, way, refers, nowhere⟩
    · exact u.not_endless later

end Quire.Schema
