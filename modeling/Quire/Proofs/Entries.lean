import Quire.Value

/-! What mappings hold after an entry was written, erased or laid over them. -/

namespace Quire

@[simp] theorem Value.same_str (k : Value) (name : String) :
    k.same (.str name) ↔ k = .str name := by
  cases k <;> simp [Value.same, Value.number?]

namespace Entries

@[simp] theorem has_nil (key : Value) : has [] key = false := rfl

@[simp] theorem has_cons (k v : Value) (es : Entries) (key : Value) :
    has ((k, v) :: es) key = (k.same key || has es key) := rfl

theorem get?_eq_none {es : Entries} {key : Value} : get? es key = none ↔ has es key = false := by
  rw [← isSome_get?, Option.isSome_eq_false_iff, Option.isNone_iff_eq_none]

theorem mem_of_get? {es : Entries} {key v : Value} (found : get? es key = some v) :
    ∃ k, (k, v) ∈ es ∧ k.same key := by
  unfold get? at found
  obtain ⟨⟨k, w⟩, first, rfl⟩ := Option.map_eq_some_iff.mp found
  exact ⟨k, List.mem_of_find?_eq_some first, by simpa using List.find?_some first⟩

theorem has_erase (es : Entries) (key : Value) : has (erase es key) key = false := by
  simp [has, erase]

/-- A key that is there keeps its place, and a new one goes last. -/
theorem keys_put (es : Entries) (k v : Value) :
    keys (put es k v) = if has es k then keys es else keys es ++ [k] := by
  induction es with
  | nil => rfl
  | cons e es ih =>
    obtain ⟨k', old⟩ := e
    by_cases here : k'.same k
    · simp [put, keys, here]
    · simp only [put, here, Bool.false_eq_true, if_false, has_cons, Bool.false_or]
      simp only [keys, List.map_cons] at ih ⊢
      rw [ih]
      split <;> rfl

/-- A name is there after writing if it was there before or is the one written. -/
theorem has_put (es : Entries) (k v : Value) (name : String) :
    has (put es k v) (.str name) = (has es (.str name) || k.same (.str name)) := by
  induction es with
  | nil => simp [put]
  | cons e es ih =>
    obtain ⟨k', v'⟩ := e
    by_cases overwrites : k'.same k
    · have kept : k.same (.str name) → k'.same (.str name) := by
        intro same
        rw [(Value.same_str k name).mp same] at overwrites
        exact overwrites
      simp only [put, overwrites, if_true, has_cons]
      cases h : k.same (.str name) with
      | false => simp
      | true => simp [kept h]
    · simp [put, overwrites, ih, Bool.or_assoc]

/-- Each entry after writing is one of before, or has the new value under the new key
or under one of before. -/
theorem mem_put {es : Entries} {k v : Value} {e : Value × Value} (inside : e ∈ put es k v) :
    e ∈ es ∨ e.2 = v ∧ (e.1 = k ∨ e.1 ∈ keys es) := by
  induction es with
  | nil =>
    obtain rfl := List.mem_singleton.mp inside
    exact .inr ⟨rfl, .inl rfl⟩
  | cons e' es ih =>
    obtain ⟨k', v'⟩ := e'
    by_cases overwrites : k'.same k
    · simp only [put, overwrites, if_true, List.mem_cons] at inside ⊢
      rcases inside with rfl | rest
      · exact .inr ⟨rfl, .inr List.mem_cons_self⟩
      · exact .inl (.inr rest)
    · simp only [put, overwrites, Bool.false_eq_true, if_false, List.mem_cons] at inside ⊢
      rcases inside with rfl | rest
      · exact .inl (.inl rfl)
      · refine (ih rest).imp .inr (.imp_right (.imp_right ?_))
        exact List.mem_cons_of_mem _

theorem has_update (es fs : Entries) (name : String) :
    has (update es fs) (.str name) = (has es (.str name) || has fs (.str name)) := by
  induction fs generalizing es with
  | nil => simp [update]
  | cons f fs ih =>
    have step : has (update (put es f.1 f.2) fs) (.str name) = _ := ih (put es f.1 f.2)
    simp only [update, List.foldl_cons] at step ⊢
    rw [step, has_put, has_cons, Bool.or_assoc]

/-- Each entry after laying some over others has a key of theirs and a value of theirs. -/
theorem mem_update {es fs : Entries} {e : Value × Value} (inside : e ∈ update es fs) :
    e ∈ es ∨ (e.1 ∈ keys es ∨ e.1 ∈ keys fs) ∧ ∃ f ∈ fs, e.2 = f.2 := by
  induction fs generalizing es with
  | nil => exact .inl inside
  | cons f fs ih =>
    have keyOf {k : Value} (there : k ∈ keys (put es f.1 f.2)) :
        k ∈ keys es ∨ k ∈ keys (f :: fs) := by
      obtain ⟨g, inside, rfl⟩ := List.mem_map.mp there
      rcases mem_put inside with before | ⟨_, new | before⟩
      · exact .inl (List.mem_map_of_mem before)
      · exact .inr (new ▸ List.mem_cons_self)
      · exact .inl before
    rcases @ih (put es f.1 f.2) inside with written | ⟨key, g, there, eq⟩
    · rcases mem_put written with before | ⟨eq, _⟩
      · exact .inl before
      · exact .inr ⟨keyOf (List.mem_map_of_mem written), f, List.mem_cons_self, eq⟩
    · refine .inr ⟨?_, g, List.mem_cons_of_mem _ there, eq⟩
      exact key.elim keyOf fun later => .inr (List.mem_cons_of_mem _ later)

@[simp] theorem field?_putField_self (es : Entries) (name : String) (v : Value) :
    field? (putField es name v) name = some v := by
  induction es with
  | nil => simp [putField, put, field?]
  | cons e es ih =>
    obtain ⟨k', v'⟩ := e
    simp only [putField, field?] at ih ⊢
    by_cases overwrites : k'.same (.str name)
    · simp only [put, overwrites, if_true, get?_cons]
    · simp only [put, overwrites, Bool.false_eq_true, if_false, get?_cons, ih]

theorem field?_putField_of_ne (es : Entries) {name other : String} (ne : name ≠ other) (v : Value) :
    field? (putField es name v) other = field? es other := by
  induction es with
  | nil => simp [putField, put, field?, ne]
  | cons e es ih =>
    obtain ⟨k', v'⟩ := e
    simp only [putField, field?] at ih ⊢
    by_cases overwrites : k'.same (.str name)
    · have apart : ¬k'.same (.str other) := by
        rw [(Value.same_str k' name).mp overwrites, Value.same_str]
        simpa using ne
      simp only [put, overwrites, if_true, get?_cons, apart, Bool.false_eq_true, if_false]
    · simp only [put, overwrites, Bool.false_eq_true, if_false, get?_cons, ih]

end Entries
end Quire
