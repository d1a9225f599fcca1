import Quire.Proofs.Schema.Unfolding

/-! Definitions that refer to themselves only: finite nestings of mappings, lists and
scalars whose references are all local. Whatever their unfolding comes to is again
such a nesting, with no references but those of the definition. -/

namespace Quire.Schema

open Relation

/-- A text that begins with `#` names a place in the definition itself. -/
def isLocal : Value → Bool
  | .str reference => reference.toList.head? == some '#'
  | _ => false

mutual

/-- A finite nesting of mappings, lists and scalars in which all that stands under
`$ref` is local. -/
def isSelfContained : Value → Bool
  | .list xs => allSelfContained xs
  | .map es => fieldsSelfContained es
  | .tuple _ => false
  | .set _ => false
  | .cycle _ => false
  | .missing _ => false
  | _ => true

def allSelfContained : List Value → Bool
  | [] => true
  | x :: xs => isSelfContained x && allSelfContained xs

def fieldsSelfContained : List (Value × Value) → Bool
  | [] => true
  | (k, v) :: es => isSelfContained k && isSelfContained v && (!k.same referenceKey || isLocal v) &&
      fieldsSelfContained es

end

mutual

/-- Whether some mapping inside a value has a `$ref` key. -/
def hasReference : Value → Bool
  | .list xs => anyHasReference xs
  | .map es => Entries.has es referenceKey || anyFieldHasReference es
  | _ => false

def anyHasReference : List Value → Bool
  | [] => false
  | x :: xs => hasReference x || anyHasReference xs

def anyFieldHasReference : List (Value × Value) → Bool
  | [] => false
  | (_, v) :: es => hasReference v || anyFieldHasReference es

end

theorem fieldsSelfContained_iff {es : Entries} : fieldsSelfContained es ↔
    ∀ e ∈ es, isSelfContained e.1 ∧ isSelfContained e.2 ∧
      (e.1.same referenceKey → isLocal e.2) := by
  induction es with
  | nil => simp [fieldsSelfContained]
  | cons e es ih =>
    obtain ⟨k, v⟩ := e
    simp only [fieldsSelfContained, Bool.and_eq_true, Bool.or_eq_true, Bool.not_eq_true', ih,
      List.mem_cons, forall_eq_or_imp, and_assoc]
    cases k.same referenceKey <;> simp

theorem hasReference_map_iff {es : Entries} : hasReference (.map es) = false ↔
    Entries.has es referenceKey = false ∧ ∀ e ∈ es, hasReference e.2 = false := by
  have fields : anyFieldHasReference es = es.any fun e => hasReference e.2 := by
    induction es with
    | nil => rfl
    | cons e es ih => rw [anyFieldHasReference, ih, List.any_cons]
  rw [hasReference, fields, Bool.or_eq_false_iff, List.any_eq_false]
  simp only [Bool.not_eq_true]

theorem mem_referencesOfFields {es : Entries} {reference : String} :
    reference ∈ referencesOfFields es ↔ ∃ e ∈ es, reference ∈ references e.2 := by
  induction es with
  | nil => simp [referencesOfFields]
  | cons e es ih => simp [referencesOfFields, ih]

mutual

theorem copied_selfContained : ∀ v, isSelfContained v → v.copied = v
  | .list xs, h => congrArg Value.list (copiedList_selfContained xs h)
  | .map es, h => congrArg Value.map (copiedEntries_selfContained es h)
  | .tuple _, h | .set _, h | .cycle _, h | .missing _, h => by simp [isSelfContained] at h
  | .null, _ | .bool _, _ | .int _, _ | .real _, _ | .str _, _ | .date _, _ | .moment _, _
  | .time _, _ | .bytes _, _ => rfl

theorem copiedList_selfContained : ∀ xs, allSelfContained xs → Value.copiedList xs = xs
  | [], _ => rfl
  | x :: xs, h => by
    simp only [allSelfContained, Bool.and_eq_true] at h
    rw [Value.copiedList, copied_selfContained x h.1, copiedList_selfContained xs h.2]

theorem copiedEntries_selfContained :
    ∀ es, fieldsSelfContained es → Value.copiedEntries es = es
  | [], _ => rfl
  | (k, v) :: es, h => by
    simp only [fieldsSelfContained, Bool.and_eq_true] at h
    rw [Value.copiedEntries, copied_selfContained k h.1.1.1, copied_selfContained v h.1.1.2,
      copiedEntries_selfContained es h.2]

end

mutual

theorem not_endless_selfContained : ∀ v, isSelfContained v → v.isEndless = false
  | .list xs, h => not_anyEndless_selfContained xs h
  | .map es, h => not_anyFieldEndless_selfContained es h
  | .tuple _, h | .set _, h | .cycle _, h | .missing _, h => by simp [isSelfContained] at h
  | .null, _ | .bool _, _ | .int _, _ | .real _, _ | .str _, _ | .date _, _ | .moment _, _
  | .time _, _ | .bytes _, _ => rfl

theorem not_anyEndless_selfContained : ∀ xs, allSelfContained xs → Value.anyEndless xs = false
  | [], _ => rfl
  | x :: xs, h => by
    simp only [allSelfContained, Bool.and_eq_true] at h
    rw [Value.anyEndless, not_endless_selfContained x h.1, not_anyEndless_selfContained xs h.2]
    rfl

theorem not_anyFieldEndless_selfContained :
    ∀ es, fieldsSelfContained es → Value.anyFieldEndless es = false
  | [], _ => rfl
  | (_, v) :: es, h => by
    simp only [fieldsSelfContained, Bool.and_eq_true] at h
    rw [Value.anyFieldEndless, not_endless_selfContained v h.1.1.2,
      not_anyFieldEndless_selfContained es h.2]
    rfl

end

mutual

/-- Without a reference there is nothing to follow. -/
theorem unfold_eq_self (follow : String → Except ReferenceError Value) :
    ∀ v, hasReference v = false → unfold follow v = .ok v
  | .list xs, h => by
    rw [unfold, unfoldItems_eq_self follow xs h]
    rfl
  | .map es, h => by
    simp only [hasReference, Bool.or_eq_false_iff] at h
    have plain : referenceOf? es = none := by
      rw [referenceOf?, Entries.get?_eq_none.mpr h.1]
      rfl
    rw [unfold, plain]
    dsimp only
    rw [unfoldFields_eq_self follow es h.2]
    rfl
  | .tuple _, _ | .set _, _ | .cycle _, _ | .missing _, _ | .null, _ | .bool _, _ | .int _, _
  | .real _, _ | .str _, _ | .date _, _ | .moment _, _ | .time _, _ | .bytes _, _ => rfl

theorem unfoldItems_eq_self (follow : String → Except ReferenceError Value) :
    ∀ xs, anyHasReference xs = false → unfoldItems follow xs = .ok xs
  | [], _ => rfl
  | x :: xs, h => by
    simp only [anyHasReference, Bool.or_eq_false_iff] at h
    rw [unfoldItems, unfold_eq_self follow x h.1, unfoldItems_eq_self follow xs h.2]
    rfl

theorem unfoldFields_eq_self (follow : String → Except ReferenceError Value) :
    ∀ es, anyFieldHasReference es = false → unfoldFields follow false es = .ok es
  | [], _ => rfl
  | (k, v) :: es, h => by
    simp only [anyFieldHasReference, Bool.or_eq_false_iff] at h
    rw [unfoldFields, unfold_eq_self follow v h.1, unfoldFields_eq_self follow es h.2]
    rfl

end

theorem has_of_referenceOf? {es : Entries} {reference : String}
    (refers : referenceOf? es = some reference) : Entries.has es referenceKey = true := by
  rw [← Entries.isSome_get?]
  obtain ⟨v, found, _⟩ := Option.bind_eq_some_iff.mp refers
  rw [found]
  rfl

/-- What a definition refers to under `$ref`, it refers to by a local text. -/
theorem referenceOf?_of_has {es : Entries} (fits : fieldsSelfContained es)
    (has : Entries.has es referenceKey = true) :
    ∃ reference, referenceOf? es = some reference ∧ reference.toList.head? = some '#' := by
  rw [← Entries.isSome_get?] at has
  obtain ⟨v, found⟩ := Option.isSome_iff_exists.mp has
  obtain ⟨k, inside, same⟩ := Entries.mem_of_get? found
  have localText := (fieldsSelfContained_iff.mp fits (k, v) inside).2.2 same
  cases v with
  | str reference =>
    refine ⟨reference, ?_, by simpa [isLocal] using localText⟩
    rw [referenceOf?, found]
    rfl
  | _ => simp [isLocal] at localText

theorem isLocal_of_referenceOf? {es : Entries} (fits : fieldsSelfContained es) {reference : String}
    (refers : referenceOf? es = some reference) : reference.toList.head? = some '#' := by
  obtain ⟨reference', refers', localText⟩ := referenceOf?_of_has fits (has_of_referenceOf? refers)
  rwa [Option.some.inj (refers.symm.trans refers')]

theorem has_eq_false_of_plain {es : Entries} (fits : fieldsSelfContained es)
    (plain : referenceOf? es = none) : Entries.has es referenceKey = false := by
  by_contra has
  obtain ⟨reference, refers, _⟩ := referenceOf?_of_has fits (by simpa using has)
  simp [plain] at refers

theorem plain_of_has {es : Entries} (has : Entries.has es referenceKey = false) :
    referenceOf? es = none := by
  rw [referenceOf?, Entries.get?_eq_none.mpr has]
  rfl

theorem mem_erase {es : Entries} {e : Value × Value} (inside : e ∈ Entries.erase es referenceKey) :
    e ∈ es := (List.mem_filter.mp inside).1

/-- A part of a definition that is still to be unfolded. -/
structure Fits (root : Entries) (v : Value) : Prop where
  selfContained : isSelfContained v
  known : ∀ reference ∈ references v, reference ∈ references (.map root)

variable {root : Entries}

theorem Fits.top (fits : isSelfContained (.map root)) : Fits root (.map root) :=
  ⟨fits, fun _ inside => inside⟩

theorem Fits.item {x : Value} {xs : List Value} (fits : Fits root (.list (x :: xs))) :
    Fits root x ∧ Fits root (.list xs) := by
  obtain ⟨inside, known⟩ := fits
  simp only [isSelfContained, allSelfContained, Bool.and_eq_true] at inside
  refine ⟨⟨inside.1, fun r h => known r ?_⟩, inside.2, fun r h => known r ?_⟩
  · exact List.mem_append_left _ h
  · exact List.mem_append_right _ h

/-- Some of the entries, with what is under `$ref` or without. -/
theorem Fits.part {es fs : Entries} (fits : Fits root (.map es)) (sub : ∀ e ∈ fs, e ∈ es)
    (plain : referenceOf? fs = none) : Fits root (.map fs) := by
  refine ⟨?_, fun r h => ?_⟩
  · refine fieldsSelfContained_iff.mpr fun e inside => ?_
    exact fieldsSelfContained_iff.mp fits.selfContained e (sub e inside)
  · simp only [references, plain, Option.toList_none, List.nil_append] at h
    obtain ⟨e, inside, there⟩ := mem_referencesOfFields.mp h
    refine fits.known r (List.mem_append_right _ ?_)
    exact mem_referencesOfFields.mpr ⟨e, sub e inside, there⟩

theorem Fits.value {es : Entries} (fits : Fits root (.map es)) {e : Value × Value}
    (inside : e ∈ es) : Fits root e.2 := by
  refine ⟨(fieldsSelfContained_iff.mp fits.selfContained e inside).2.1, fun r h => ?_⟩
  exact fits.known r (List.mem_append_right _ (mem_referencesOfFields.mpr ⟨e, inside, h⟩))

theorem Fits.descend {v : Value} (fits : Fits root v) {keys : List String} {w : Value}
    (leads : Pointer.descend keys v = some w) : Fits root w := by
  induction keys generalizing v with
  | nil => exact Option.some.inj leads ▸ fits
  | cons k keys ih =>
    cases v with
    | map es =>
      obtain ⟨u, found, leads⟩ := Option.bind_eq_some_iff.mp leads
      obtain ⟨k', inside, _⟩ := Entries.mem_of_get? found
      exact ih (fits.value inside) leads
    | _ => simp [Pointer.descend] at leads

/-- What a pointer names is a part of the definition, or the pointer leads nowhere. -/
theorem named_cases (fits : isSelfContained (.map root)) (reference : String) :
    (∃ target, named root reference = .ok target ∧ Fits root target) ∨
    ∃ pointer, named root reference = .error (.unresolvable pointer) := by
  unfold named Pointer.resolve
  cases leads : Pointer.descend (Pointer.keys (cutReference reference).2) (.map root) with
  | none => exact .inr ⟨_, rfl⟩
  | some target => exact .inl ⟨target, rfl, (Fits.top fits).descend leads⟩

theorem Fits.named (fits : isSelfContained (.map root)) {reference : String} {target : Value}
    (names : named root reference = .ok target) : Fits root target := by
  rcases named_cases fits reference with ⟨target', names', fits'⟩ | ⟨pointer, nowhere⟩
  · exact Except.ok.inj (names.symm.trans names') ▸ fits'
  · simp [nowhere] at names

/-- The unfolding of a definition comes to parts of it only. -/
theorem Fits.comesTo (whole : isSelfContained (.map root)) {v w : Value} (fits : Fits root v)
    (step : ComesTo root v w) : Fits root w := by
  cases step with
  | item => exact fits.item.1
  | items => exact fits.item.2
  | field => exact fits.value List.mem_cons_self
  | fields plain =>
    refine fits.part (fun e inside => List.mem_cons_of_mem _ inside) (plain_of_has ?_)
    have none := has_eq_false_of_plain fits.selfContained plain
    exact (Bool.or_eq_false_iff.mp none).2
  | target _ names => exact .named whole names
  | beside => exact fits.part (fun _ => mem_erase) (plain_of_has (Entries.has_erase _ _))

theorem Fits.way (whole : isSelfContained (.map root)) {v w : Value} (fits : Fits root v)
    (way : ReflTransGen (ComesTo root) v w) : Fits root w := by
  induction way with
  | refl => exact fits
  | tail _ step ih => exact ih.comesTo whole step

/-- What a part of a definition stands for has no reference left. -/
theorem Unfolds.free (whole : isSelfContained (.map root)) {v r : Value} (u : Unfolds root v r)
    (fits : Fits root v) : hasReference r = false := by
  induction u with
  | @leaf v noList noMap => cases v <;> simp_all [hasReference, Value.list?, Value.map?]
  | nil => rfl
  | cons first _ ihFirst ihRest =>
    have item := ihFirst fits.item.1
    have items := ihRest fits.item.2
    simp only [hasReference] at items
    simp only [hasReference, anyHasReference, item, items, Bool.or_false]
  | empty => rfl
  | @field k _ _ es fs plain first _ ihFirst ihRest =>
    have value := ihFirst (fits.comesTo whole (.field plain))
    obtain ⟨others, values⟩ :=
      hasReference_map_iff.mp (ihRest (fits.comesTo whole (.fields plain first)))
    have none := has_eq_false_of_plain fits.selfContained plain
    rw [Entries.has_cons, Bool.or_eq_false_iff] at none
    refine hasReference_map_iff.mpr ⟨?_, ?_⟩
    · rw [Entries.has_cons, none.1, others, Bool.or_false]
    · exact List.forall_mem_cons.mpr ⟨value, values⟩
  | @merged es ts fs _ _ refers names there _ ihThere ihBeside =>
    obtain ⟨target, below⟩ :=
      hasReference_map_iff.mp (ihThere (fits.comesTo whole (.target refers names)))
    obtain ⟨beside, values⟩ :=
      hasReference_map_iff.mp (ihBeside (fits.comesTo whole (.beside refers names there)))
    refine hasReference_map_iff.mpr ⟨?_, fun e inside => ?_⟩
    · rw [referenceKey, Entries.has_update, ← referenceKey, target, beside, Bool.or_false]
    · rcases Entries.mem_update inside with kept | ⟨_, f, there, eq⟩
      · exact below e kept
      · exact eq ▸ values f there
  | replaced refers names _ _ ihThere => exact ihThere (fits.comesTo whole (.target refers names))

/-- What a part of a definition stands for is a definition again. -/
theorem Unfolds.selfContained (whole : isSelfContained (.map root)) {v r : Value}
    (u : Unfolds root v r) (fits : Fits root v) : isSelfContained r := by
  induction u with
  | leaf => exact fits.selfContained
  | nil => rfl
  | cons _ _ ihFirst ihRest =>
    have item := ihFirst fits.item.1
    have items := ihRest fits.item.2
    exact Bool.and_eq_true_iff.mpr ⟨item, items⟩
  | empty => rfl
  | @field k _ _ es fs plain first _ ihFirst ihRest =>
    have value := ihFirst (fits.comesTo whole (.field plain))
    have others := ihRest (fits.comesTo whole (.fields plain first))
    have none := has_eq_false_of_plain fits.selfContained plain
    rw [Entries.has_cons, Bool.or_eq_false_iff] at none
    have key := (fieldsSelfContained_iff.mp fits.selfContained _ List.mem_cons_self).1
    refine fieldsSelfContained_iff.mpr (List.forall_mem_cons.mpr ⟨⟨key, value, ?_⟩, ?_⟩)
    · exact fun same => absurd same (by simp [none.1])
    · exact fieldsSelfContained_iff.mp others
  | @merged es ts fs _ _ refers names there beside ihThere ihBeside =>
    have free := (Unfolds.merged refers names there beside).free whole fits
    have target := fieldsSelfContained_iff.mp (ihThere (fits.comesTo whole (.target refers names)))
    have laid := fieldsSelfContained_iff.mp
      (ihBeside (fits.comesTo whole (.beside refers names there)))
    refine fieldsSelfContained_iff.mpr fun e inside => ⟨?_, ?_, fun same => ?_⟩
    · rcases Entries.mem_update inside with kept | ⟨key | key, _⟩
      · exact (target e kept).1
      · obtain ⟨g, there, eq⟩ := List.mem_map.mp key
        exact eq ▸ (target g there).1
      · obtain ⟨g, there, eq⟩ := List.mem_map.mp key
        exact eq ▸ (laid g there).1
    · rcases Entries.mem_update inside with kept | ⟨_, f, there, eq⟩
      · exact (target e kept).2.1
      · exact eq ▸ (laid f there).2.1
    · have has : Entries.has (Entries.update ts fs) referenceKey = true :=
        List.any_eq_true.mpr ⟨e, inside, same⟩
      simp [(hasReference_map_iff.mp free).1] at has
  | replaced refers names _ _ ihThere => exact ihThere (fits.comesTo whole (.target refers names))

end Quire.Schema
