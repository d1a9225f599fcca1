import Quire.Proofs.Distinct
import Quire.Proofs.Fields

/-! Aggregates of items that come in two lots, from the aggregates of each lot. -/

namespace Quire

/-! ### Laying mappings over one another -/

namespace Entries

variable {es fs gs : Entries} {a k v w x : Value}

theorem each_put {P : Value → Prop} (each : ∀ s ∈ keys es, P s) (key : P k) (v : Value) :
    ∀ s ∈ keys (put es k v), P s := by
  rw [keys_put]
  split
  · exact each
  · exact List.forall_mem_append.mpr ⟨each, List.forall_mem_singleton.mpr key⟩

/-- Keys without a NaN, none of them twice. -/
structure KeysSound (es : Entries) : Prop where
  each : ∀ k ∈ keys es, k.isSound
  apart : (keys es).Pairwise fun k later => ¬k.same later

theorem KeysSound.put (sound : KeysSound es) (key : k.isSound) (v : Value) :
    KeysSound (put es k v) where
  each := each_put sound.each key v
  apart := by
    rw [keys_put]
    split
    · exact sound.apart
    · next new =>
      refine List.pairwise_append.mpr ⟨sound.apart, List.pairwise_singleton _ k, ?_⟩
      intro k' inside other last same
      obtain rfl := List.mem_singleton.mp last
      obtain ⟨e, among, rfl⟩ := List.mem_map.mp inside
      exact new (List.any_eq_true.mpr ⟨e, among, same⟩)

theorem KeysSound.update (sound : KeysSound es) (each : ∀ k ∈ keys fs, k.isSound) :
    KeysSound (update es fs) := by
  induction fs generalizing es with
  | nil => exact sound
  | cons f fs ih =>
    obtain ⟨first, others⟩ := List.forall_mem_cons.mp each
    exact ih (sound.put first f.2) others

theorem has_put_of_same (same : a.same k) (es : Entries) (x : Value) : has (put es a x) k := by
  induction es with
  | nil => simpa [put] using same
  | cons e es ih =>
    obtain ⟨s, y⟩ := e
    simp only [put]
    split
    · next here => simp [Value.same_trans here same]
    · simp [ih]

theorem has_put_of_has (there : has es k) (a x : Value) : has (put es a x) k := by
  induction es with
  | nil => cases there
  | cons e es ih =>
    obtain ⟨s, y⟩ := e
    simp only [put, has_cons, Bool.or_eq_true] at there ⊢
    split
    · simpa using there
    · simpa using there.imp_right ih

/-- Of two values under one key the later one counts. -/
theorem put_put_same (same : a.same k) (sound : a.isSound) (es : Entries) (x v : Value) :
    put (put es a x) k v = put es a v := by
  induction es with
  | nil => simp [put, same]
  | cons e es ih =>
    obtain ⟨s, y⟩ := e
    by_cases here : s.same a
    · simp [put, here, Value.same_trans here same]
    · have other : ¬s.same k := fun there =>
        here (Value.same_trans there (Value.same_symm sound same))
      simp [put, here, other, ih]

/-- A key that is there keeps its place, whatever is put under another. -/
theorem put_comm_of_has (there : has es k) (apart : ¬a.same k) (sound : ∀ s ∈ keys es, s.isSound)
    (x v : Value) : put (put es a x) k v = put (put es k v) a x := by
  induction es with
  | nil => cases there
  | cons e es ih =>
    obtain ⟨s, y⟩ := e
    obtain ⟨first, others⟩ := List.forall_mem_cons.mp sound
    by_cases here : s.same a
    · have other : ¬s.same k := fun there =>
        apart (Value.same_trans (Value.same_symm first here) there)
      simp [put, here, other]
    · by_cases at' : s.same k
      · simp [put, here, at']
      · have there : has es k := by simpa [at'] using there
        simp [put, here, at', ih there others]

theorem update_put_of_has (there : has es k) (apart : ∀ a ∈ keys fs, ¬a.same k)
    (sound : ∀ s ∈ keys es, s.isSound) (sound' : ∀ s ∈ keys fs, s.isSound) (v : Value) :
    update (put es k v) fs = put (update es fs) k v := by
  induction fs generalizing es with
  | nil => rfl
  | cons f fs ih =>
    obtain ⟨beside, apart⟩ := List.forall_mem_cons.mp apart
    obtain ⟨first, others⟩ := List.forall_mem_cons.mp sound'
    have later := ih (has_put_of_has there f.1 f.2) apart (each_put sound first f.2) others
    rwa [put_comm_of_has there beside sound] at later

/-- A value put into a mapping that is laid over another may as well be put in afterwards. -/
theorem update_put (sound : ∀ s ∈ keys es, s.isSound) (laid : KeysSound fs) (k v : Value) :
    update es (put fs k v) = put (update es fs) k v := by
  induction fs generalizing es with
  | nil => rfl
  | cons f fs ih =>
    obtain ⟨s, w⟩ := f
    obtain ⟨first, others⟩ := List.forall_mem_cons.mp laid.each
    obtain ⟨beside, apart⟩ := List.pairwise_cons.mp laid.apart
    by_cases here : s.same k
    · have other : ∀ a ∈ keys fs, ¬a.same k := fun a inside there =>
        beside a inside (Value.same_trans here (Value.same_symm (others a inside) there))
      have later := update_put_of_has (has_put_of_same here es w) other (each_put sound first w)
        others v
      rw [put_put_same here first] at later
      rw [put, if_pos here]
      exact later
    · rw [put, if_neg here]
      exact ih (each_put sound first w) ⟨others, apart⟩

/-- Mappings laid over one another may be put together in either order. -/
theorem update_assoc (sound : ∀ s ∈ keys es, s.isSound) (laid : KeysSound fs)
    (sound' : ∀ s ∈ keys gs, s.isSound) :
    update es (update fs gs) = update (update es fs) gs := by
  induction gs generalizing fs with
  | nil => rfl
  | cons g gs ih =>
    obtain ⟨first, others⟩ := List.forall_mem_cons.mp sound'
    have later := ih (laid.put first g.2) others
    rwa [update_put sound laid] at later

/-- Mappings laid over one another. -/
def overlaid (A : List Entries) : Entries := A.foldl update []

variable {A B : List Entries}

theorem keysSound_overlaid (sound : ∀ es ∈ A, ∀ k ∈ keys es, k.isSound) :
    KeysSound (overlaid A) := by
  refine List.foldlRecOn A update ⟨nofun, List.Pairwise.nil⟩ fun fs laid es inside => ?_
  exact laid.update (sound es inside)

theorem overlaid_append (sound : ∀ es ∈ A ++ B, ∀ k ∈ keys es, k.isSound) :
    overlaid (A ++ B) = update (overlaid A) (overlaid B) := by
  induction B using List.reverseRecOn with
  | nil => exact congrArg overlaid (List.append_nil A)
  | append_singleton B es ih =>
    have front : ∀ es ∈ A ++ B, ∀ k ∈ keys es, k.isSound := fun es' inside =>
      sound es' (by rw [← List.append_assoc]; exact List.mem_append_left [es] inside)
    obtain ⟨first, second⟩ := List.forall_mem_append.mp front
    have last : ∀ k ∈ keys es, k.isSound := sound es (by simp)
    have concat (C : List Entries) : overlaid (C ++ [es]) = update (overlaid C) es :=
      List.foldl_concat ..
    rw [← List.append_assoc, concat, concat, ih front,
      update_assoc (keysSound_overlaid first).each (keysSound_overlaid second) last]

end Entries

/-! ### Values drawn from the elements -/

namespace Path

theorem reach_append_values (xs ys : List Value) (segments : List Segment) :
    reach (xs ++ ys) segments = reach xs segments ++ reach ys segments := by
  induction segments generalizing xs ys with
  | nil => rfl
  | cons s segments ih => rw [reach, List.flatMap_append, ih, reach, reach]

theorem drawn_append (xs ys : List Value) (segments : List Segment) :
    drawn (xs ++ ys) segments = drawn xs segments ++ drawn ys segments := by
  rw [drawn, reach_append_values, List.flatMap_append, drawn, drawn]

end Path

namespace Distinct

variable {us vs : List Value}

/-- Going over the values that stay is as good as going over all of them. -/
theorem foldl_dedupe (d : Distinct) (vs : List Value) :
    (dedupe vs).foldl insert d = vs.foldl insert d := by
  induction vs using List.reverseRecOn with
  | nil => rfl
  | append_singleton vs v ih =>
    have one : dedupe (vs ++ [v]) = ((ofList vs).insert v).values :=
      congrArg values (ofList_append vs [v])
    rw [one, List.foldl_concat]
    cases there : (ofList vs).values.any (·.alike v) with
    | false =>
      rw [values_insert there, List.foldl_concat]
      exact congrArg (·.insert v) ih
    | true =>
      obtain ⟨u, inside, alike⟩ := (holds_ofList vs v).mp ((holds_eq _ v).trans there)
      have after : (vs.foldl insert d).values.any (·.alike v) = true := by
        rw [← List.isSome_find?, find?_foldl, List.find?_isSome]
        exact ⟨u, List.mem_append_right _ inside, alike⟩
      rw [insert_of_holds there, insert_of_holds after]
      exact ih

end Distinct

theorem dedupe_append (us vs : List Value) : dedupe (us ++ vs) = dedupe (dedupe us ++ dedupe vs) := by
  unfold dedupe
  rw [Distinct.ofList_append, Distinct.ofList_append, Distinct.ofList_values]
  exact (congrArg Distinct.values (Distinct.foldl_dedupe _ vs)).symm

namespace Derivation

variable {d : Derivation}

theorem kept_append (us vs : List Value) : d.kept (us ++ vs) = d.kept (d.kept us ++ d.kept vs) := by
  unfold kept
  split
  · exact dedupe_append us vs
  · rfl

theorem field_append (ks : List String) (xs ys : List Value) :
    d.field ks (xs ++ ys) = d.kept (d.field ks xs ++ d.field ks ys) := by
  rw [field, Path.drawn_append, kept_append, field, field]

end Derivation

namespace Aggregation

theorem elements_map (A : List Entries) : elements (A.map .map) = A.map .map := by
  refine List.filter_eq_self.mpr fun v inside => ?_
  obtain ⟨es, _, rfl⟩ := List.mem_map.mp inside
  rfl

theorem Plan.aggregate_overlaid {p : Plan} (uncollected : p.target? = none)
    (underived : p.declarations = []) (A : List Entries) :
    ∃ report, p.aggregate (A.map .map) = .ok ⟨Entries.overlaid A, report⟩ := by
  have gathered : gather p.target? (A.map .map) = .ok (Entries.overlaid A) := by
    rw [uncollected, gather, List.foldl_map]
    rfl
  have done := aggregate_writable (underived ▸ List.forall_mem_nil _) gathered
  rw [carriedOut, underived] at done
  exact ⟨_, done⟩

/-- An aggregate of items that come in two lots is made of the aggregates of each lot. Where what
is declared draws on the collection and lies apart from it and from one another, the elements of
the second lot follow those of the first, and so do the values of each field, once more without
those alike to an earlier one if the field is to have none. Without a collection and without
anything declared, the second aggregate is laid over the first, entry by entry. -/
theorem Plan.aggregate_append (p : Plan) (A B : List Entries) :
    (∀ target, p.Independent target →
      ∃ a b c, p.aggregate (A.map .map) = .ok a ∧ p.aggregate (B.map .map) = .ok b ∧
        p.aggregate ((A ++ B).map .map) = .ok c ∧
        (∃ xs ys, Path.get (.map a.data) target = .ok (some (.list xs)) ∧
          Path.get (.map b.data) target = .ok (some (.list ys)) ∧
          Path.get (.map c.data) target = .ok (some (.list (xs ++ ys)))) ∧
        ∀ d ∈ p.declarations, ∀ rule, d.check = .ok rule →
          ∃ us vs, Path.get (.map a.data) rule.target = .ok (some (.list us)) ∧
            Path.get (.map b.data) rule.target = .ok (some (.list vs)) ∧
            Path.get (.map c.data) rule.target =
              .ok (some (.list (if rule.unique then dedupe (us ++ vs) else us ++ vs)))) ∧
    (p.target? = none → p.declarations = [] → (∀ es ∈ A ++ B, (Value.map es).isSound) →
      ∃ a b c, p.aggregate (A.map .map) = .ok a ∧ p.aggregate (B.map .map) = .ok b ∧
        p.aggregate ((A ++ B).map .map) = .ok c ∧ c.data = Entries.update a.data b.data) := by
  constructor
  · intro target independent
    obtain ⟨ks, reads⟩ := independent.placed
    have aggregated (C : List Entries) : ∃ report, p.aggregate (C.map .map) =
        .ok ⟨drawnOut ks (C.map .map) p.declarations, report⟩ := by
      have done := independent.aggregate_eq reads (C.map .map)
      rwa [elements_map] at done
    obtain ⟨_, first⟩ := aggregated A
    obtain ⟨_, second⟩ := aggregated B
    obtain ⟨_, whole⟩ := aggregated (A ++ B)
    rw [List.map_append] at whole ⊢
    refine ⟨_, _, _, first, second, whole, ⟨A.map .map, B.map .map, ?_, ?_, ?_⟩,
      fun d inside rule made => ?_⟩
    · exact independent.get_collection reads _
    · exact independent.get_collection reads _
    · exact independent.get_collection reads _
    · have among := Declaration.mem_rules.mpr ⟨d, inside, made⟩
      refine ⟨_, _, independent.get_field ks _ among, independent.get_field ks _ among, ?_⟩
      rw [independent.get_field ks _ among, Derivation.field_append]
      rfl
  · intro uncollected underived sound
    obtain ⟨_, first⟩ := aggregate_overlaid uncollected underived A
    obtain ⟨_, second⟩ := aggregate_overlaid uncollected underived B
    obtain ⟨_, whole⟩ := aggregate_overlaid uncollected underived (A ++ B)
    refine ⟨_, _, _, first, second, whole, Entries.overlaid_append fun es inside k key => ?_⟩
    have each := sound es inside
    rw [Value.isSound] at each
    obtain ⟨e, among, rfl⟩ := List.mem_map.mp key
    exact ((Value.entriesSound_iff.mp each).1 e among).1

/-- Notes on a shelf, one in the first lot and two in the second; and loose notes. -/
theorem Plan.aggregate_append_shelf :
    shelf.Independent "notes" ∧
    (∃ a b c us vs,
      shelf.aggregate [.map (note "x" [1, 2])] = .ok a ∧
      shelf.aggregate [.map (note "y" [2]), .map (note "x" [3, 1])] = .ok b ∧
      shelf.aggregate [.map (note "x" [1, 2]), .map (note "y" [2]), .map (note "x" [3, 1])] =
        .ok c ∧
      Path.get (.map a.data) "index.tags" = .ok (some (.list us)) ∧
      Path.get (.map b.data) "index.tags" = .ok (some (.list vs)) ∧
      Path.get (.map c.data) "index.tags" = .ok (some (.list (dedupe (us ++ vs))))) ∧
    ∃ a b c,
      Plan.aggregate ⟨none, []⟩ [.map (note "x" [1, 2])] = .ok a ∧
      Plan.aggregate ⟨none, []⟩ [.map (note "y" [2])] = .ok b ∧
      Plan.aggregate ⟨none, []⟩ [.map (note "x" [1, 2]), .map (note "y" [2])] = .ok c ∧
      c.data = Entries.update a.data b.data := by
  refine ⟨shelf_independent, ?_, ?_⟩
  · obtain ⟨a, b, c, first, second, whole, _, fields⟩ :=
      (Plan.aggregate_append shelf [note "x" [1, 2]] [note "y" [2], note "x" [3, 1]]).1 "notes"
        shelf_independent
    obtain ⟨us, vs, us', vs', both⟩ := fields ⟨.str "notes[].tags", .str "index.tags", .bool true⟩
      (by simp [shelf]) ⟨"notes[].tags", "index.tags", true⟩ (by with_unfolding_all rfl)
    exact ⟨a, b, c, us, vs, first, second, whole, us', vs', both⟩
  · exact (Plan.aggregate_append ⟨none, []⟩ [note "x" [1, 2]] [note "y" [2]]).2 rfl rfl
      (by decide +kernel)

end Aggregation
end Quire
