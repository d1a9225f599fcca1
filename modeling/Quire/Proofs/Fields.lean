import Quire.Proofs.Reordering

/-! Derived fields that are drawn from the elements of a collection, and that lie apart from it
and from one another. Each comes of the elements alone, whatever fields were written before, so
that it does not matter in which order they are declared. -/

namespace Quire

namespace Path

open Schema.Pointer (descend)

variable {ks : List String}

/-- The steps to each element of the list to which the keys lead. -/
def through : List String → List Segment
  | [] => []
  | [k] => [⟨k, true⟩]
  | k :: k' :: ks => ⟨k, false⟩ :: through (k' :: ks)

theorem length_through (ks : List String) : (through ks).length = ks.length := by
  fun_induction through ks with
  | case1 => rfl
  | case2 => rfl
  | case3 k k' ks ih => exact congrArg (· + 1) ih

theorem through_concat (ks : List String) (k : String) :
    through (ks ++ [k]) = ks.map (fun k => ⟨k, false⟩) ++ [⟨k, true⟩] := by
  induction ks with
  | nil => rfl
  | cons k' ks ih =>
    obtain ⟨k'', rest, eq⟩ : ∃ k'' rest, ks ++ [k] = k'' :: rest :=
      List.exists_cons_of_ne_nil (by simp)
    rw [List.cons_append, eq, through, ← eq, ih]
    rfl

theorem stripChars_brackets (trimmed : Text.stripChars p.toList = p.toList)
    (nonempty : p.toList ≠ []) : Text.stripChars (p ++ "[]").toList = (p ++ "[]").toList := by
  have closed : Text.stripChars [']'] = [']'] := by decide
  rw [String.toList_append]
  exact Text.stripChars_append trimmed nonempty closed (List.cons_ne_nil _ _) '['

/-- A path with brackets after it leads through the elements of the list at its end. -/
theorem parse_brackets (reads : plainKeys p = .ok ks)
    (trimmed : Text.stripChars p.toList = p.toList) : parse (p ++ "[]") = .ok (through ks) := by
  obtain ⟨nonempty, pieces⟩ := (parse_trimmed trimmed).mp (parse_of_plainKeys reads)
  obtain ⟨front, last, whole, joins⟩ := splitChars_append '.' p.toList
  have more := joins (splitChars_of_notMem (show '.' ∉ ['[', ']'] by decide))
  rw [whole] at pieces
  obtain ⟨us, vs, before, at', all⟩ := mapM_append_eq_ok.mp pieces
  obtain ⟨s, read, rfl⟩ := mapM_singleton_eq_ok.mp at'
  obtain ⟨names, end', rfl, rfl, single⟩ := List.map_eq_append_iff.mp all
  obtain ⟨k, rfl, rfl⟩ := List.map_eq_singleton_iff.mp single
  have text : (p ++ "[]").toList = p.toList ++ ['[', ']'] := String.toList_append
  refine (parse_trimmed (stripChars_brackets trimmed nonempty)).mpr ⟨?_, ?_⟩
  · simp [text]
  · rw [text, more, through_concat, mapM_append_eq_ok]
    refine ⟨_, _, mapM_eq_ok_of_imp (fun _ _ _ => ofPiece_path) before, ?_, rfl⟩
    exact mapM_singleton_eq_ok.mpr ⟨_, ofPiece_append_brackets read, rfl⟩

/-- What is collected on the way further on from some values. -/
def drawn (xs : List Value) (segments : List Segment) : List Value :=
  (reach xs segments).flatMap leaves

theorem reach_append (xs : List Value) (front back : List Segment) :
    reach xs (front ++ back) = reach (reach xs front) back := by
  induction front generalizing xs with
  | nil => rfl
  | cons s front ih => exact ih _

theorem reach_through {data : Value} {xs : List Value} (found : descend ks data = some (.list xs))
    (some : ks ≠ []) : reach [data] (through ks) = xs := by
  fun_induction through ks generalizing data with
  | case1 => exact absurd rfl some
  | case2 k =>
    cases data with
    | map es =>
      obtain ⟨v, there, found⟩ := Option.bind_eq_some_iff.mp found
      obtain rfl := Option.some.inj found
      simp [reach, step, there, Value.elements?]
    | _ => cases found
  | case3 k k' ks ih =>
    cases data with
    | map es =>
      obtain ⟨v, there, found⟩ := Option.bind_eq_some_iff.mp found
      have one : [Value.map es].flatMap (step ⟨k, false⟩) = [v] := by simp [step, there]
      rw [reach, one]
      exact ih found (List.cons_ne_nil k' ks)
    | _ => cases found

theorem collectAt_through {data : Value} {xs : List Value}
    (found : descend ks data = some (.list xs)) (some : ks ≠ []) (rest : List Segment) :
    collectAt data (through ks ++ rest) = drawn xs rest := by
  rw [collectAt, reach_append, reach_through found some, drawn]

end Path

open Quire.Path (through drawn Scattered writeLists)
open Schema.Pointer (descend)

namespace Derivation

/-- Values are found on the way through the elements of the list at a place. -/
def DrawsOn (d : Derivation) (target : String) : Prop :=
  ∀ ks, Path.plainKeys target = .ok ks → through ks <+: d.reading

/-- Such are the paths that go on from the place of the list after brackets, or end there. -/
theorem drawsOn_of_text {d : Derivation} {target : String} (trimmed : Text.strip target = target)
    (source : d.source = target ++ "[]" ∨ ∃ p rest, d.source = target ++ "[]" ++ "." ++ p ∧
      Text.strip p = p ∧ Path.parse p = .ok rest) : d.DrawsOn target := by
  intro ks reads
  have trimmed := Text.stripChars_of_strip trimmed
  have list := Path.parse_brackets reads trimmed
  rcases source with here | ⟨p, rest, onward, trimmed', reads'⟩
  · rw [reading, here, list]
    exact List.prefix_rfl
  · have nonempty := ((Path.parse_trimmed trimmed).mp (Path.parse_of_plainKeys reads)).1
    have whole := Path.parse_append_dot list (Path.stripChars_brackets trimmed nonempty) reads'
      (Text.stripChars_of_strip trimmed')
    rw [reading, onward, whole]
    exact List.prefix_append _ _

/-- What the field holds if these are the elements of the list at a place. -/
def field (ks : List String) (xs : List Value) (d : Derivation) : List Value :=
  d.kept (drawn xs (d.reading.drop ks.length))

variable {d : Derivation} {target : String} {ks : List String} {es : Entries} {xs : List Value}

theorem DrawsOn.fill_eq (draws : d.DrawsOn target) (reads : Path.plainKeys target = .ok ks)
    (found : descend ks (.map es) = some (.list xs)) :
    d.fill es = Path.write es d.place (.list (d.field ks xs)) := by
  obtain ⟨rest, way⟩ := draws ks reads
  have onward : d.reading.drop ks.length = rest := by
    rw [← way, ← Path.length_through ks, List.drop_left]
  rw [fill, field, onward, ← way, Path.collectAt_through found (Path.plainKeys_ne_nil reads)]

end Derivation

open Declaration (rules)

namespace Aggregation

/-- What is declared draws on the collection, and is written apart from it and from one
another. What is refused is written nowhere. -/
structure Plan.Independent (p : Plan) (target : String) : Prop where
  collects : p.target? = some target
  placed : ∃ ks, Path.plainKeys target = .ok ks
  writable : ∀ d ∈ p.declarations, d.isWritable
  drawn : ∀ rule ∈ rules p.declarations, rule.DrawsOn target
  beside : ∀ rule ∈ rules p.declarations, Path.Apart rule.target target
  apart : (rules p.declarations).Pairwise fun rule other => Path.Apart rule.target other.target

/-- The fields at their places. -/
def fields (ks : List String) (xs : List Value) (declared : List Declaration) :
    List (List String × List Value) :=
  (rules declared).map fun rule => (rule.place, rule.field ks xs)

/-- The elements that a collection has. -/
def elements (items : List Value) : List Value := items.filter fun v => v.kind = .map

variable {target : String} {ks : List String} {declared : List Declaration}

theorem reads_rules {rule : Derivation} (inside : rule ∈ rules declared) :
    Path.plainKeys rule.target = .ok rule.place := by
  obtain ⟨d, _, made⟩ := Declaration.mem_rules.mp inside
  exact (Declaration.check_reads made).2

/-- While nothing is written at, above or below the collection, each field is what is drawn
from it. -/
theorem carriedOut_eq (reads : Path.plainKeys target = .ok ks)
    (drawn : ∀ rule ∈ rules declared, rule.DrawsOn target)
    (beside : ∀ rule ∈ rules declared, Path.Apart rule.target target) {xs : List Value}
    {es : Entries} (found : descend ks (.map es) = some (.list xs)) :
    carriedOut es declared = writeLists es (fields ks xs declared) := by
  have places : ∀ rule ∈ rules declared, Path.plainKeys rule.target = .ok rule.place :=
    fun _ => reads_rules
  unfold carriedOut fields
  generalize rules declared = rs at drawn beside places
  induction rs generalizing es with
  | nil => rfl
  | cons rule rs ih =>
    obtain ⟨first, drawn⟩ := List.forall_mem_cons.mp drawn
    obtain ⟨apart, beside⟩ := List.forall_mem_cons.mp beside
    obtain ⟨place, places⟩ := List.forall_mem_cons.mp places
    obtain ⟨up, down⟩ := apart _ _ place reads
    rw [List.foldl_cons, first.fill_eq reads found]
    exact ih ((Path.descend_write_apart es up down _).trans found) drawn beside places

/-- A collection with the fields that are drawn from it. -/
def drawnOut (ks : List String) (xs : List Value) (declared : List Declaration) : Entries :=
  writeLists (Path.write [] ks (.list xs)) (fields ks xs declared)

namespace Plan.Independent

variable {p : Plan} (independent : p.Independent target) (reads : Path.plainKeys target = .ok ks)
include independent

theorem scattered (ks : List String) (xs : List Value) :
    Scattered (fields ks xs p.declarations) :=
  List.pairwise_map.mpr <| independent.apart.imp_of_mem fun inside inside' apart =>
    apart _ _ (reads_rules inside) (reads_rules inside')

/-- Each field is where it was declared to be. -/
theorem get_field (ks : List String) (xs : List Value) {rule : Derivation}
    (inside : rule ∈ rules p.declarations) :
    Path.get (.map (drawnOut ks xs p.declarations)) rule.target =
      .ok (some (.list (rule.field ks xs))) := by
  have place := reads_rules inside
  have there : (rule.place, rule.field ks xs) ∈ fields ks xs p.declarations :=
    List.mem_map_of_mem inside
  rw [Path.get_of_plainKeys place, drawnOut,
    Path.descend_writeLists (independent.scattered ks xs) there (Path.plainKeys_ne_nil place)]

include reads

theorem get_collection (xs : List Value) :
    Path.get (.map (drawnOut ks xs p.declarations)) target = .ok (some (.list xs)) := by
  have beside : ∀ w ∈ fields ks xs p.declarations, IncompRel List.IsPrefix w.1 ks := by
    intro w inside
    obtain ⟨rule, declared, rfl⟩ := List.mem_map.mp inside
    exact independent.beside rule declared _ _ (reads_rules declared) reads
  rw [Path.get_of_plainKeys reads, drawnOut, Path.descend_writeLists_apart beside,
    Path.descend_write_self [] (Path.plainKeys_ne_nil reads)]

theorem aggregate_eq (items : List Value) : ∃ report,
    p.aggregate items = .ok ⟨drawnOut ks (elements items) p.declarations, report⟩ := by
  have gathered : gather p.target? items = .ok (Path.write [] ks (.list (elements items))) := by
    rw [independent.collects, gather_eq reads, elements]
  have found := Path.descend_write_self [] (Path.plainKeys_ne_nil reads) (.list (elements items))
  have filled := carriedOut_eq reads independent.drawn independent.beside found
  exact ⟨_, filled ▸ aggregate_writable independent.writable gathered⟩

end Plan.Independent

section Order

variable {p : Plan}

theorem Plan.Independent.perm (independent : p.Independent target)
    (perm : p.declarations.Perm declared) : Plan.Independent ⟨p.target, declared⟩ target where
  collects := independent.collects
  placed := independent.placed
  writable d inside := independent.writable d (perm.mem_iff.mpr inside)
  drawn rule inside := independent.drawn rule ((perm.filterMap _).mem_iff.mpr inside)
  beside rule inside := independent.beside rule ((perm.filterMap _).mem_iff.mpr inside)
  apart := ((perm.filterMap _).pairwise_iff Path.Apart.symm).mp independent.apart

/-- One declaration is independent when it is one of several that are. -/
theorem Plan.Independent.alone (independent : p.Independent target) {d : Declaration}
    (inside : d ∈ p.declarations) : Plan.Independent ⟨p.target, [d]⟩ target := by
  have among : (rules [d]).Sublist (rules p.declarations) :=
    (List.singleton_sublist.mpr inside).filterMap _
  exact
    { collects := independent.collects
      placed := independent.placed
      writable := fun d' single => independent.writable d' (List.mem_singleton.mp single ▸ inside)
      drawn := fun rule there => independent.drawn rule (among.subset there)
      beside := fun rule there => independent.beside rule (among.subset there)
      apart := independent.apart.sublist among }

/-- If what is declared draws on the collection and lies apart from it and from one another, it
can be declared in any order: the aggregate is the same but for the order of keys, and each
field is what it would be if it were the only one. -/
theorem Plan.aggregate_permuted {p : Plan} {target : String}
    (independent : p.Independent target) {declared : List Declaration}
    (perm : p.declarations.Perm declared) (items : List Value) :
    ∃ a b, p.aggregate items = .ok a ∧ Plan.aggregate ⟨p.target, declared⟩ items = .ok b ∧
      Relation.ReflTransGen Entries.Reordered a.data b.data ∧
      ∀ d ∈ p.declarations, ∀ rule, d.check = .ok rule →
        ∃ alone field, Plan.aggregate ⟨p.target, [d]⟩ items = .ok alone ∧
          Path.get (.map alone.data) rule.target = .ok (some (.list field)) ∧
          Path.get (.map a.data) rule.target = .ok (some (.list field)) ∧
          Path.get (.map b.data) rule.target = .ok (some (.list field)) := by
  obtain ⟨ks, reads⟩ := independent.placed
  obtain ⟨report, first⟩ := independent.aggregate_eq reads items
  obtain ⟨report', second⟩ := (independent.perm perm).aggregate_eq reads items
  refine ⟨_, _, first, second, ?_, fun d inside rule made => ?_⟩
  · exact Path.writeLists_perm ((perm.filterMap _).map _) (independent.scattered _ _)
      (Path.tidy_nil.write ks _)
  · have single := independent.alone inside
    obtain ⟨report'', third⟩ := single.aggregate_eq reads items
    refine ⟨_, rule.field ks (elements items), third, ?_, ?_, ?_⟩
    · exact single.get_field _ _ (Declaration.mem_rules.mpr ⟨d, List.mem_singleton_self d, made⟩)
    · exact independent.get_field _ _ (Declaration.mem_rules.mpr ⟨d, inside, made⟩)
    · exact (independent.perm perm).get_field _ _
        (Declaration.mem_rules.mpr ⟨d, perm.mem_iff.mp inside, made⟩)

/-- A note with a title and tags. -/
def note (title : String) (tags : List Int) : Entries :=
  [(.str "title", .str title), (.str "tags", .list (tags.map .int))]

/-- Notes with their titles, their tags and, once more, themselves. -/
def shelf : Plan where
  target := some "notes"
  declarations :=
    [⟨.str "notes[].title", .str "titles", .bool false⟩,
      ⟨.str "notes[].tags", .str "index.tags", .bool true⟩,
      ⟨.str "notes[]", .str "index.notes", .bool false⟩]

theorem shelf_independent : shelf.Independent "notes" := by
  have reads : Path.plainKeys "notes" = .ok ["notes"] := by with_unfolding_all rfl
  have made : rules shelf.declarations =
      [⟨"notes[].title", "titles", false⟩, ⟨"notes[].tags", "index.tags", true⟩,
        ⟨"notes[]", "index.notes", false⟩] := by with_unfolding_all rfl
  have titles : Path.plainKeys "titles" = .ok ["titles"] := by with_unfolding_all rfl
  have tags : Path.plainKeys "index.tags" = .ok ["index", "tags"] := by with_unfolding_all rfl
  have notes : Path.plainKeys "index.notes" = .ok ["index", "notes"] := by
    with_unfolding_all rfl
  exact
    { collects := by with_unfolding_all rfl
      placed := ⟨_, reads⟩
      writable := by simp [shelf, Declaration.isWritable, Value.isWritable]
      drawn := by
        have trimmed : Text.strip "notes" = "notes" := by with_unfolding_all rfl
        simp only [made, List.forall_mem_cons]
        refine ⟨?_, ?_, ?_, List.forall_mem_nil _⟩ <;> refine Derivation.drawsOn_of_text trimmed ?_
        · exact .inr ⟨"title", _, rfl, by with_unfolding_all rfl, by with_unfolding_all rfl⟩
        · exact .inr ⟨"tags", _, rfl, by with_unfolding_all rfl, by with_unfolding_all rfl⟩
        · exact .inl rfl
      beside := by simp [made, Path.Apart, reads, titles, tags, notes]
      apart := by simp [made, Path.Apart, titles, tags, notes] }

theorem Plan.aggregate_permuted_shelf :
    shelf.Independent "notes" ∧ shelf.declarations.Perm shelf.declarations.reverse ∧
    ∃ a b, shelf.aggregate [.map (note "x" [1, 2]), .map (note "y" [2])] = .ok a ∧
      Plan.aggregate ⟨shelf.target, shelf.declarations.reverse⟩
        [.map (note "x" [1, 2]), .map (note "y" [2])] = .ok b ∧
      Relation.ReflTransGen Entries.Reordered a.data b.data ∧
      ∃ alone field,
        Plan.aggregate ⟨shelf.target, [⟨.str "notes[].tags", .str "index.tags", .bool true⟩]⟩
          [.map (note "x" [1, 2]), .map (note "y" [2])] = .ok alone ∧
        Path.get (.map alone.data) "index.tags" = .ok (some (.list field)) ∧
        Path.get (.map a.data) "index.tags" = .ok (some (.list field)) ∧
        Path.get (.map b.data) "index.tags" = .ok (some (.list field)) := by
  have turned := (List.reverse_perm shelf.declarations).symm
  obtain ⟨a, b, first, second, same, fields⟩ := Plan.aggregate_permuted shelf_independent turned
    [.map (note "x" [1, 2]), .map (note "y" [2])]
  refine ⟨shelf_independent, turned, a, b, first, second, same, ?_⟩
  exact fields ⟨.str "notes[].tags", .str "index.tags", .bool true⟩ (by simp [shelf])
    ⟨"notes[].tags", "index.tags", true⟩ (by with_unfolding_all rfl)

end Order

end Aggregation
end Quire
