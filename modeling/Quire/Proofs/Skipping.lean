import Quire.Proofs.Derivations

/-! Declarations that are refused are skipped. They are reported, with their texts, and the
others go on as if they had never been made. What has no text cannot be reported, though, and
a single declaration without one leaves no aggregate at all. -/

namespace Quire

namespace Declaration

variable {declared : List Declaration}

/-- The declarations that are accepted. -/
def accepted (declared : List Declaration) : List Declaration :=
  declared.filter fun d => d.check.isOk

theorem mem_accepted {d : Declaration} :
    d ∈ accepted declared ↔ d ∈ declared ∧ ∃ rule, d.check = .ok rule := by
  rw [accepted, List.mem_filter]
  cases d.check <;> simp [Except.isOk, Except.toBool]

theorem rules_accepted (declared : List Declaration) :
    rules (accepted declared) = rules declared := by
  unfold rules accepted
  rw [List.filterMap_filter]
  refine List.filterMap_congr fun d _ => ?_
  cases d.check <;> rfl

/-- The fields in the report are those of the accepted declarations. -/
theorem entries_left (declared : List Declaration) :
    (declared.map entry).filterMap Sum.getLeft? = (rules declared).map Derivation.target := by
  unfold rules
  rw [List.filterMap_map, List.map_filterMap]
  refine List.filterMap_congr fun d _ => ?_
  unfold Function.comp entry
  cases d.check <;> rfl

theorem entries_right_accepted (declared : List Declaration) :
    ((accepted declared).map entry).filterMap Sum.getRight? = [] := by
  rw [List.filterMap_map, List.filterMap_eq_nil_iff]
  intro d inside
  obtain ⟨_, rule, made⟩ := mem_accepted.mp inside
  rw [Function.comp, entry, made]
  rfl

end Declaration

namespace Aggregation

/-- The plan without the declarations that are refused. -/
def Plan.accepted (p : Plan) : Plan :=
  { p with declarations := Declaration.accepted p.declarations }

theorem gather_placed {target : Option String}
    (placed : ∀ t, target = some t → ∃ ks, Path.plainKeys t = .ok ks) (items : List Value) :
    ∃ data, gather target items = .ok data := by
  cases target with
  | none => exact ⟨_, rfl⟩
  | some t =>
    obtain ⟨ks, reads⟩ := placed t rfl
    exact ⟨_, gather_eq reads items⟩

theorem Plan.aggregate_unwritable {p : Plan} (unwritable : ∃ d ∈ p.declarations, ¬d.isWritable)
    {items : List Value} {data : Entries} (gathered : gather p.target? items = .ok data) :
    p.aggregate items = .error (.mishap (.badValue Numeral.unwritable)) := by
  have derived := derive_unwritable unwritable data { elements := items.length }
  unfold aggregate attempt
  rw [gathered]
  change ((derive data _ _).bind _).result = _
  rw [Attempt.result_bind, derived]
  rfl

/-- Wherever a collection, if there is one, can be placed, an aggregate comes of the accepted
declarations, whatever they are and whatever the items. The refused ones among them add to its
report and do nothing else, as long as all of them have texts: each declaration is entered either
with the field that it fills or with its text and the reason for which it is refused, and both
lists keep the order in which they were declared. If one of them has no text, nothing comes
of any. -/
theorem Plan.aggregate_skips {p : Plan}
    (placed : ∀ t, p.target? = some t → ∃ ks, Path.plainKeys t = .ok ks) (items : List Value) :
    ∃ data,
      p.accepted.aggregate items = .ok
        { data
          report :=
            { elements := items.length
              derived := (p.declarations.map Declaration.entry).filterMap Sum.getLeft?
              failed := [] } } ∧
      p.aggregate items =
        if p.declarations.all Declaration.isWritable then .ok
          { data
            report :=
              { elements := items.length
                derived := (p.declarations.map Declaration.entry).filterMap Sum.getLeft?
                failed := (p.declarations.map Declaration.entry).filterMap Sum.getRight? } }
        else .error (.mishap (.badValue Numeral.unwritable)) := by
  obtain ⟨start, gathered⟩ := gather_placed placed items
  refine ⟨carriedOut start p.declarations, ?_, ?_⟩
  · have writable : ∀ d ∈ p.accepted.declarations, d.isWritable := fun d inside =>
      (Declaration.mem_accepted.mp inside).2.elim fun _ => Declaration.isWritable_of_check
    rw [aggregate_writable writable gathered, carriedOut, accepted, Declaration.rules_accepted,
      Declaration.entries_left, Declaration.entries_left, Declaration.rules_accepted,
      Declaration.entries_right_accepted, carriedOut]
  · split
    · next writable => exact aggregate_writable (List.all_eq_true.mp writable) gathered
    · next unwritable =>
      refine aggregate_unwritable ?_ gathered
      simpa using unwritable

/-- Notes with their titles and the titles once more, and in between a source that is no text
and one that ends in a dot. -/
def motley : Plan where
  target := some "notes"
  declarations :=
    [⟨.str "notes[].title", .str "titles", .bool false⟩, ⟨.int 17, .str "bad", .bool false⟩,
      ⟨.str "notes[].", .str "worse", .bool false⟩, ⟨.str "titles", .str "copy", .bool true⟩]

theorem motley_placed (t : String) (place : motley.target? = some t) :
    ∃ ks, Path.plainKeys t = .ok ks := by
  have notes : motley.target? = some "notes" := by with_unfolding_all rfl
  obtain rfl := Option.some.inj (notes.symm.trans place)
  exact ⟨["notes"], by with_unfolding_all rfl⟩

theorem Plan.aggregate_skips_motley :
    (∀ t, motley.target? = some t → ∃ ks, Path.plainKeys t = .ok ks) ∧ ∃ data,
      motley.accepted.aggregate [.record [("title", .str "x")], .null] = .ok
        { data
          report := { elements := 2, derived := ["titles", "copy"], failed := [] } } ∧
      motley.aggregate [.record [("title", .str "x")], .null] = .ok
        { data
          report :=
            { elements := 2
              derived := ["titles", "copy"]
              failed :=
                [("17 -> bad", "derivation source path must be a non-empty string, got 17"),
                  ("notes[]. -> worse", "empty segment in path 'notes[].'")] } } := by
  have writable : motley.declarations.all Declaration.isWritable = true := by decide +kernel
  have derived : (motley.declarations.map Declaration.entry).filterMap Sum.getLeft? =
      ["titles", "copy"] := by with_unfolding_all rfl
  have failed : (motley.declarations.map Declaration.entry).filterMap Sum.getRight? =
      [("17 -> bad", "derivation source path must be a non-empty string, got 17"),
        ("notes[]. -> worse", "empty segment in path 'notes[].'")] := by with_unfolding_all rfl
  obtain ⟨data, kept, skips⟩ :=
    Plan.aggregate_skips motley_placed [.record [("title", .str "x")], .null]
  rw [if_pos writable, failed] at skips
  rw [derived] at kept skips
  exact ⟨motley_placed, data, kept, skips⟩

/-- A source that is a whole number with a digit too many is refused like any other that is no
text. But it cannot be written into the report, and there is no aggregate. -/
theorem Plan.aggregate_stops :
    ∃ d : Declaration, (∃ e, d.check = .error e) ∧
      Plan.aggregate ⟨none, []⟩ [] = .ok ⟨[], {}⟩ ∧
      Plan.aggregate ⟨none, [d]⟩ [] = .error (.mishap (.badValue Numeral.unwritable)) := by
  refine ⟨⟨.int Numeral.firstUnwritable, .str "bad", .bool false⟩, ⟨_, rfl⟩, rfl, ?_⟩
  have tooLong : Numeral.isWritable Numeral.firstUnwritable = false := by
    rw [Numeral.isWritable, Int.natAbs_natCast]
    exact decide_eq_false (Nat.lt_irrefl _)
  refine aggregate_unwritable ⟨_, List.mem_singleton_self _, ?_⟩ rfl
  rw [Declaration.isWritable, Value.isWritable, tooLong]
  exact Bool.false_ne_true

end Aggregation
end Quire
