import Quire.Proofs.Chain
import Quire.Proofs.Entries

/-! Properties that a collection has just when its parts have them, such as that all keys
in it are of some kind. -/

namespace Quire

/-- `P` holds of a collection just when it holds of its members, with `K` for the keys of
a mapping; texts are such keys. -/
structure Hereditary (K P : Value → Prop) : Prop where
  text : ∀ name : String, K (.str name)
  list : ∀ xs, P (.list xs) ↔ ∀ x ∈ xs, P x
  tuple : ∀ xs, P (.tuple xs) ↔ ∀ x ∈ xs, P x
  map : ∀ es, P (.map es) ↔ ∀ e ∈ es, K e.1 ∧ P e.2

namespace Hereditary

variable {K P : Value → Prop} (h : Hereditary K P)
include h

theorem empty : P (.map []) := (h.map []).mpr nofun

theorem field? {es : Entries} (holds : P (.map es)) {name : String} {v : Value}
    (found : Entries.field? es name = some v) : P v := by
  obtain ⟨k, inside, _⟩ := Entries.mem_of_get? found
  exact ((h.map es).mp holds _ inside).2

theorem elements? {v : Value} (holds : P v) {xs : List Value} (members : v.elements? = some xs) :
    ∀ x ∈ xs, P x := by
  cases v with
  | list ys =>
    obtain rfl := Option.some.inj members
    exact (h.list ys).mp holds
  | tuple ys =>
    obtain rfl := Option.some.inj members
    exact (h.tuple ys).mp holds
  | _ => cases members

theorem put {es : Entries} (holds : P (.map es)) {k v : Value} (key : K k) (value : P v) :
    P (.map (Entries.put es k v)) := by
  have parts := (h.map es).mp holds
  refine (h.map _).mpr fun e inside => ?_
  rcases Entries.mem_put inside with before | ⟨rfl, rfl | old⟩
  · exact parts e before
  · exact ⟨key, value⟩
  · obtain ⟨e', before, same⟩ := List.mem_map.mp old
    exact ⟨same ▸ (parts e' before).1, value⟩

theorem update {es fs : Entries} (holds : P (.map es)) (other : P (.map fs)) :
    P (.map (Entries.update es fs)) := by
  induction fs generalizing es with
  | nil => exact holds
  | cons f fs ih =>
    have parts := (h.map _).mp other
    obtain ⟨key, value⟩ := parts f List.mem_cons_self
    exact ih (h.put holds key value)
      ((h.map fs).mpr fun e later => parts e (List.mem_cons_of_mem f later))

theorem ofList {fs : Entries} (holds : P (.map fs)) : P (.map (Entries.ofList fs)) :=
  h.update h.empty holds

theorem putField {es : Entries} (holds : P (.map es)) (name : String) {v : Value} (value : P v) :
    P (.map (Entries.putField es name v)) := h.put holds (h.text name) value

end Hereditary

namespace Value

variable (p : Value → Bool)

mutual

/-- Whether every key of every mapping passes a test. A set is not looked into. -/
def everyKey : Value → Bool
  | .list xs => everyKeyOfAll xs
  | .tuple xs => everyKeyOfAll xs
  | .map es => everyKeyOfFields es
  | _ => true

def everyKeyOfAll : List Value → Bool
  | [] => true
  | x :: xs => everyKey x && everyKeyOfAll xs

def everyKeyOfFields : List (Value × Value) → Bool
  | [] => true
  | (k, v) :: es => p k && everyKey v && everyKeyOfFields es

end

variable {p}

theorem everyKeyOfAll_iff {xs : List Value} :
    everyKeyOfAll p xs = true ↔ ∀ x ∈ xs, x.everyKey p = true := by
  induction xs with
  | nil => simp [everyKeyOfAll]
  | cons x xs ih => simp [everyKeyOfAll, ih]

theorem everyKeyOfFields_iff {es : Entries} :
    everyKeyOfFields p es = true ↔ ∀ e ∈ es, p e.1 = true ∧ e.2.everyKey p = true := by
  induction es with
  | nil => simp [everyKeyOfFields]
  | cons e es ih => simp [everyKeyOfFields, ih]

theorem everyKey_hereditary (text : ∀ name : String, p (.str name) = true) :
    Hereditary (fun k => p k = true) (fun v => v.everyKey p = true) where
  text := text
  list _ := everyKeyOfAll_iff
  tuple _ := everyKeyOfAll_iff
  map _ := everyKeyOfFields_iff

mutual

theorem everyKey_copied (test : ∀ k : Value, p k.copied = p k) :
    ∀ v : Value, v.copied.everyKey p = v.everyKey p
  | .list xs => by simpa only [copied, everyKey] using everyKeyOfAll_copied test xs
  | .tuple xs => by simpa only [copied, everyKey] using everyKeyOfAll_copied test xs
  | .map es => by simpa only [copied, everyKey] using everyKeyOfFields_copied test es
  | .missing _ | .null | .bool _ | .int _ | .real _ | .str _ | .date _ | .moment _ | .time _
  | .bytes _ | .set _ | .cycle _ => rfl

theorem everyKeyOfAll_copied (test : ∀ k : Value, p k.copied = p k) :
    ∀ xs : List Value, everyKeyOfAll p (copiedList xs) = everyKeyOfAll p xs
  | [] => rfl
  | x :: xs => by
    simp only [copiedList, everyKeyOfAll, everyKey_copied test x, everyKeyOfAll_copied test xs]

theorem everyKeyOfFields_copied (test : ∀ k : Value, p k.copied = p k) :
    ∀ es : List (Value × Value), everyKeyOfFields p (copiedEntries es) = everyKeyOfFields p es
  | [] => rfl
  | (k, v) :: es => by
    simp only [copiedEntries, everyKeyOfFields, test k, everyKey_copied test v,
      everyKeyOfFields_copied test es]

end

end Value
end Quire
