import Quire.Document
import Quire.Proofs.Altering
import Quire.Proofs.Leaves

/-! Flattening the lists in the metadata of a document. To flatten a list is a change that may be
made again, and in any order with others, without making a difference, so that it is enough to
know which paths are flattened. -/

namespace Quire

namespace Path

open Schema.Pointer (descend)

variable {v w : Value} {ks ls : List String}

/-- A list with its leaves for elements, and any other value as it is. -/
def leveled : Value → Value
  | .list xs => .list (flatten xs)
  | v => v

theorem leveled_of_leaf (leaf : v.list? = none) : leveled v = v := by
  cases v with
  | list xs => cases leaf
  | _ => rfl

theorem leveled_leveled (v : Value) : leveled (leveled v) = leveled v := by
  rcases list_or_leaf v with ⟨xs, rfl⟩ | ⟨leaf, _⟩
  · rw [leveled, leveled, flatten_flatten]
  · rw [leveled_of_leaf leaf, leveled_of_leaf leaf]

theorem leveled_shallow : Shallow leveled where
  map _ := rfl
  other v none := by
    rcases list_or_leaf v with ⟨xs, rfl⟩ | ⟨leaf, _⟩
    · rfl
    · rw [leveled_of_leaf leaf, none]

theorem isEndless_leveled (v : Value) : isEndless (leveled v) = isEndless v := by
  rcases list_or_leaf v with ⟨xs, rfl⟩ | ⟨leaf, _⟩
  · rw [leveled, isEndless, anyEndless_eq_any, ← any_isEndless_flattenValue (.list xs),
      flattenValue]
  · rw [leveled_of_leaf leaf]

/-- Whether a path leads to a list without an end. -/
def leadsOn (v : Value) (ks : List String) : Bool := (descend ks v).any isEndless

/-- The list at a place, if there is one. -/
def listAt (v : Value) (ks : List String) : Option (List Value) := (descend ks v).bind Value.list?

/-- A list is flattened where it is, and is without an end if it was before. -/
theorem leadsOn_alter (ks ls : List String) (v : Value) :
    leadsOn (alter leveled ks v) ls = leadsOn v ls := by
  unfold leadsOn
  by_cases here : ls = ks
  · subst here
    rw [descend_alter_self]
    cases descend ls v with
    | none => rfl
    | some w => exact isEndless_leveled w
  · rcases leveled_shallow.descend_alter_elsewhere here v with same | ⟨es, fs, before, after⟩
    · rw [same]
    · rw [before, after]
      rfl

theorem listAt_alter (ks ls : List String) (v : Value) :
    listAt (alter leveled ks v) ls = if ls = ks then (listAt v ls).map flatten else listAt v ls := by
  unfold listAt
  split
  · next here =>
    subst here
    rw [descend_alter_self]
    cases descend ls v with
    | none => rfl
    | some w => cases w <;> rfl
  · next here =>
    rcases leveled_shallow.descend_alter_elsewhere here v with same | ⟨es, fs, before, after⟩
    · rw [same]
    · rw [before, after]
      rfl

/-- A value with the lists at some places flattened, one after the other. -/
def levelAll (places : List (List String)) (v : Value) : Value :=
  places.foldl (fun v ks => alter leveled ks v) v

variable {places others : List (List String)}

theorem levelAll_perm (perm : places.Perm others) (v : Value) :
    levelAll places v = levelAll others v :=
  perm.foldl_eq' (fun ks _ ls _ w => leveled_shallow.alter_comm ls ks w) v

theorem alter_levelAll (inside : ks ∈ places) (v : Value) :
    alter leveled ks (levelAll places v) = levelAll places v := by
  obtain ⟨front, back, rfl⟩ := List.append_of_mem inside
  have last : (front ++ ks :: back).Perm (front ++ back ++ [ks]) :=
    List.perm_middle.trans (List.perm_append_singleton ks _).symm
  have whole : levelAll (front ++ back ++ [ks]) v = alter leveled ks (levelAll (front ++ back) v) :=
    List.foldl_concat ..
  rw [levelAll_perm last, whole, alter_alter leveled_leveled]

/-- Places that were flattened among others need not be flattened again. -/
theorem levelAll_of_subset (among : ∀ ks ∈ others, ks ∈ places) (v : Value) :
    levelAll others (levelAll places v) = levelAll places v := by
  induction others with
  | nil => rfl
  | cons ks others ih =>
    obtain ⟨first, among⟩ := List.forall_mem_cons.mp among
    rw [levelAll, List.foldl_cons, alter_levelAll first]
    exact ih among

/-- It does not matter in which order places are flattened, nor how often. -/
theorem levelAll_congr (same : ∀ ks, ks ∈ others ↔ ks ∈ places) (v : Value) :
    levelAll others v = levelAll places v := by
  have append (first second : List (List String)) :
      levelAll second (levelAll first v) = levelAll (first ++ second) v :=
    List.foldl_append.symm
  calc levelAll others v
      = levelAll places (levelAll others v) :=
        (levelAll_of_subset (fun ks => (same ks).mpr) v).symm
    _ = levelAll others (levelAll places v) := by
        rw [append, append, levelAll_perm List.perm_append_comm]
    _ = levelAll places v := levelAll_of_subset (fun ks => (same ks).mp) v

theorem leadsOn_levelAll (places : List (List String)) (v : Value) (ls : List String) :
    leadsOn (levelAll places v) ls = leadsOn v ls := by
  induction places generalizing v with
  | nil => rfl
  | cons ks places ih => exact (ih _).trans (leadsOn_alter ks ls v)

theorem listAt_levelAll (places : List (List String)) (v : Value) (ls : List String) :
    listAt (levelAll places v) ls =
      if ls ∈ places then (listAt v ls).map flatten else listAt v ls := by
  induction places generalizing v with
  | nil => rfl
  | cons ks places ih =>
    rw [levelAll, List.foldl_cons]
    refine (ih _).trans ?_
    rw [listAt_alter]
    by_cases here : ls = ks
    · have once : flatten ∘ flatten = flatten := funext flatten_flatten
      subst here
      simp [once]
    · simp [here]

/-- What parts from all of the places is read as before. -/
theorem read_levelAll {segments : List Segment}
    (parts : ∀ ks ∈ places, IncompRel List.IsPrefix (segments.map (·.key)) ks) (p : String)
    (v : Value) : lookup p (levelAll places v) segments = lookup p v segments ∧
      collectAt (levelAll places v) segments = collectAt v segments := by
  induction places generalizing v with
  | nil => exact ⟨rfl, rfl⟩
  | cons ks places ih =>
    obtain ⟨first, parts⟩ := List.forall_mem_cons.mp parts
    obtain ⟨looked, collected⟩ := ih parts (alter leveled ks v)
    refine ⟨looked.trans (lookup_alter first p leveled v), collected.trans ?_⟩
    rw [collectAt, reach_alter first, collectAt]

end Path

namespace Schema

open Quire.Path

theorem mem_of_mem_foldl {ps acc : List String} {p : String}
    (inside : p ∈ ps.foldl (fun acc p => if acc.contains p then acc else acc ++ [p]) acc) :
    p ∈ acc ∨ p ∈ ps := by
  induction ps generalizing acc with
  | nil => exact .inl inside
  | cons q ps ih =>
    rcases ih inside with before | later
    · dsimp only at before
      split at before
      · exact .inl before
      · rcases List.mem_append.mp before with before | new
        · exact .inl before
        · exact .inr (List.mem_singleton.mp new ▸ List.mem_cons_self)
    · exact .inr (List.mem_cons_of_mem q later)

/-- A path that a schema gives to be flattened names one place. -/
theorem flattenPaths_reads {s : Schema} {paths : List String}
    (declared : s.flattenPaths = .ok paths) : ∀ p ∈ paths, ∃ ks, plainKeys p = .ok ks := by
  intro p inside
  unfold flattenPaths at declared
  split at declared
  · next found all =>
    obtain rfl := Except.ok.inj declared
    obtain ⟨v, _, made⟩ := mem_of_mapM all ((mem_of_mem_foldl inside).resolve_left nofun)
    unfold flattenPath at made
    split at made
    · next path =>
      split at made
      · cases made
      · next segments read =>
        split at made
        · cases made
        · next closed =>
          obtain rfl := Except.ok.inj made
          obtain ⟨ks, keys⟩ := (plainKeys_eq_ok read).mpr (by simpa using closed)
          exact ⟨ks, plainKeys_strip.mpr keys⟩
    · cases made
  · cases declared

end Schema

namespace Intake

open Quire.Path

variable {p : String} {ks : List String} {paths : List String}

/-- To flatten a list is to change what is at its place. -/
theorem flattenAt_eq (reads : plainKeys p = .ok ks) (es : Entries) :
    ∃ fs, alter leveled ks (.map es) = .map fs ∧ flattenAt es p = .ok fs := by
  have nonempty := plainKeys_ne_nil reads
  unfold flattenAt flattenAt?
  rw [get_of_plainKeys reads]
  cases found : Schema.Pointer.descend ks (.map es) with
  | none => exact ⟨es, alter_of_none found leveled, rfl⟩
  | some v =>
    refine ⟨_, alter_of_descend found nonempty leveled, ?_⟩
    rcases list_or_leaf v with ⟨xs, rfl⟩ | ⟨leaf, _⟩
    · simp only [bind, Except.bind, set_eq reads]
      rfl
    · rw [leveled_of_leaf leaf, write_descend found]
      cases v with
      | list xs => cases leaf
      | _ => rfl

theorem flattenOne_eq (reads : plainKeys p = .ok ks) (es : Entries) :
    ∃ fs, alter leveled ks (.map es) = .map fs ∧
      flattenOne es p = if leadsOn (.map es) ks then .error (.tooDeep "") else .ok fs := by
  obtain ⟨fs, changed, flat⟩ := flattenAt_eq reads es
  refine ⟨fs, changed, ?_⟩
  unfold flattenOne leadsOn
  rw [get_of_plainKeys reads, flat]
  cases Schema.Pointer.descend ks (.map es) with
  | none => rfl
  | some v =>
    rw [Option.any_some]
    change (if isEndless v then _ else _ : Except Mishap Entries) = _
    split <;> rfl

/-- Where the lists have an end, all of them are flattened. -/
theorem flattenAll_ended (reads : ∀ p ∈ paths, ∃ ks, plainKeys p = .ok ks) {es : Entries}
    (ended : ∀ p ∈ paths, leadsOn (.map es) (place p) = false) :
    ∃ out, levelAll (paths.map place) (.map es) = .map out ∧ flattenAll paths es = .ok out := by
  induction paths generalizing es with
  | nil => exact ⟨es, rfl, rfl⟩
  | cons p paths ih =>
    obtain ⟨⟨ks, first⟩, others⟩ := List.forall_mem_cons.mp reads
    obtain ⟨ended, later⟩ := List.forall_mem_cons.mp ended
    obtain ⟨fs, changed, one⟩ := flattenOne_eq first es
    rw [place_eq first] at ended
    have still : ∀ q ∈ paths, leadsOn (.map fs) (place q) = false := fun q inside => by
      rw [← changed, leadsOn_alter, later q inside]
    obtain ⟨out, all, done⟩ := ih others still
    refine ⟨out, ?_, ?_⟩
    · rw [List.map_cons, place_eq first, levelAll, List.foldl_cons, changed]
      exact all
    · rw [flattenAll, List.foldlM_cons, one, ended]
      exact done

/-- With a list without an end at one of the paths nothing comes of the others. -/
theorem flattenAll_endless (reads : ∀ p ∈ paths, ∃ ks, plainKeys p = .ok ks) {es : Entries}
    (led : ∃ p ∈ paths, leadsOn (.map es) (place p) = true) :
    flattenAll paths es = .error (.tooDeep "") := by
  induction paths generalizing es with
  | nil => simp at led
  | cons p paths ih =>
    obtain ⟨⟨ks, first⟩, others⟩ := List.forall_mem_cons.mp reads
    obtain ⟨fs, changed, one⟩ := flattenOne_eq first es
    rw [flattenAll, List.foldlM_cons, one]
    cases here : leadsOn (.map es) ks with
    | true => rfl
    | false =>
      refine ih others ?_
      obtain ⟨q, inside, led⟩ := led
      rcases List.mem_cons.mp inside with rfl | later
      · rw [place_eq first, here] at led
        cases led
      · exact ⟨q, later, by rw [← changed, leadsOn_alter, led]⟩

theorem leadsOn_iff (reads : plainKeys p = .ok ks) (es : Entries) :
    leadsOn (.map es) (place p) = true ↔
      ∃ v, get (.map es) p = .ok (some v) ∧ isEndless v = true := by
  rw [place_eq reads, get_of_plainKeys reads, leadsOn, Option.any_eq_true]
  simp

theorem get_list_iff (reads : plainKeys p = .ok ks) {es : Entries} {xs : List Value} :
    get (.map es) p = .ok (some (.list xs)) ↔ listAt (.map es) ks = some xs := by
  rw [get_of_plainKeys reads, listAt]
  cases Schema.Pointer.descend ks (.map es) with
  | none => simp
  | some v =>
    rcases list_or_leaf v with ⟨ys, rfl⟩ | ⟨leaf, _⟩
    · simp [Value.list?]
    · rw [Option.bind_some, leaf]
      constructor
      · intro same
        obtain rfl := Option.some.inj (Except.ok.inj same)
        cases leaf
      · intro same
        cases same

section Leveled

variable (reads : ∀ p ∈ paths, ∃ ks, plainKeys p = .ok ks) {es out : Entries}
  (level : levelAll (paths.map place) (.map es) = .map out)
include level

theorem listAt_leveled (inside : p ∈ paths) (keys : plainKeys p = .ok ks) :
    listAt (.map out) ks = (listAt (.map es) ks).map Path.flatten := by
  have among : ks ∈ paths.map place := place_eq keys ▸ List.mem_map_of_mem inside
  rw [← level, listAt_levelAll, if_pos among]

include reads

theorem flattenAll_leveled (ended : ∀ p ∈ paths, leadsOn (.map es) (place p) = false) :
    flattenAll paths out = .ok out := by
  have still : ∀ p ∈ paths, leadsOn (.map out) (place p) = false := fun p inside => by
    rw [← level, leadsOn_levelAll, ended p inside]
  obtain ⟨out', again, done⟩ := flattenAll_ended reads still
  rw [← level, levelAll_of_subset fun _ inside => inside, level] at again
  rw [done, Value.map.inj again]

/-- What parts from all of the paths is read as before. -/
theorem read_leveled {q : String} {segments : List Segment} (parsed : parse q = .ok segments)
    (parts : ∀ p ∈ paths, ∀ ks, plainKeys p = .ok ks →
      IncompRel List.IsPrefix (segments.map (·.key)) ks) :
    get (.map out) q = get (.map es) q ∧ collect (.map out) q = collect (.map es) q := by
  have apart : ∀ ks ∈ paths.map place, IncompRel List.IsPrefix (segments.map (·.key)) ks := by
    intro ks there
    obtain ⟨p, inside, rfl⟩ := List.mem_map.mp there
    obtain ⟨ks, keys⟩ := reads p inside
    exact place_eq keys ▸ parts p inside ks keys
  obtain ⟨looked, collected⟩ := read_levelAll apart q (.map es)
  rw [level] at looked collected
  unfold Path.get collect
  rw [parsed]
  exact ⟨looked, congrArg Except.ok collected⟩

end Leveled

/-- Lists that have an end are flattened at all the paths that a schema gives, whatever the order
in which they are gone through and however often, and once this is done doing it again changes
nothing. Each list then consists of its leaves, none of which is a list; there is no list at the
end of a path where there was none; and what parts from all of the paths is read as before. If one
of the paths leads to a list within itself, all is refused in any order. -/
theorem flattenAll_settles {s : Schema} (declared : s.flattenPaths = .ok paths) (es : Entries) :
    ((∀ p ∈ paths, ∀ v, get (.map es) p = .ok (some v) → isEndless v = false) →
      ∃ out,
        (∀ others, (∀ p, p ∈ others ↔ p ∈ paths) → flattenAll others es = .ok out) ∧
        flattenAll paths out = .ok out ∧
        (∀ p ∈ paths,
          (∀ xs, get (.map es) p = .ok (some (.list xs)) →
            ∃ ys, get (.map out) p = .ok (some (.list ys)) ∧ LeavesOf xs ys ∧
              ∀ v ∈ ys, v.kind ≠ .list) ∧
          ((∀ xs, get (.map es) p ≠ .ok (some (.list xs))) →
            ∀ ys, get (.map out) p ≠ .ok (some (.list ys)))) ∧
        ∀ q segments, parse q = .ok segments →
          (∀ p ∈ paths, ∀ ks, plainKeys p = .ok ks →
            IncompRel List.IsPrefix (segments.map (·.key)) ks) →
          get (.map out) q = get (.map es) q ∧ collect (.map out) q = collect (.map es) q) ∧
    ((∃ p ∈ paths, ∃ v, get (.map es) p = .ok (some v) ∧ isEndless v = true) →
      ∀ others, (∀ p, p ∈ others ↔ p ∈ paths) → flattenAll others es = .error (.tooDeep "")) := by
  have reads := Schema.flattenPaths_reads declared
  have reads' {others : List String} (same : ∀ p, p ∈ others ↔ p ∈ paths) :
      ∀ p ∈ others, ∃ ks, plainKeys p = .ok ks := fun p inside => reads p ((same p).mp inside)
  constructor
  · intro ended
    have ended' : ∀ p ∈ paths, leadsOn (.map es) (place p) = false := by
      intro p inside
      obtain ⟨ks, keys⟩ := reads p inside
      rw [Bool.eq_false_iff, ne_eq, leadsOn_iff keys]
      rintro ⟨v, found, endless⟩
      rw [ended p inside v found] at endless
      cases endless
    obtain ⟨out, level, _⟩ := flattenAll_ended reads ended'
    refine ⟨out, fun others same => ?_, ?_, fun p inside => ⟨fun xs found => ?_, fun none ys => ?_⟩,
      fun q segments parsed parts => ?_⟩
    · have ended'' : ∀ p ∈ others, leadsOn (.map es) (place p) = false := fun p inside =>
        ended' p ((same p).mp inside)
      obtain ⟨out', level', flat⟩ := flattenAll_ended (reads' same) ended''
      have places : ∀ ks, ks ∈ others.map place ↔ ks ∈ paths.map place := by
        simp only [List.mem_map, same, implies_true]
      rw [levelAll_congr places, level] at level'
      rw [flat, Value.map.inj level']
    · exact flattenAll_leveled reads level ended'
    · obtain ⟨ks, keys⟩ := reads p inside
      have last := ended p inside _ found
      refine ⟨Path.flatten xs, ?_, leavesOf_flatten last, fun v => kind_of_mem_flatten last⟩
      rw [get_list_iff keys] at found ⊢
      rw [listAt_leveled level inside keys, found, Option.map_some]
    · obtain ⟨ks, keys⟩ := reads p inside
      rw [ne_eq, get_list_iff keys, listAt_leveled level inside keys]
      intro found
      obtain ⟨xs, before, _⟩ := Option.map_eq_some_iff.mp found
      exact none xs ((get_list_iff keys).mpr before)
    · exact read_leveled reads level parsed parts
  · intro led others same
    refine flattenAll_endless (reads' same) ?_
    obtain ⟨p, inside, led⟩ := led
    obtain ⟨ks, keys⟩ := reads p inside
    exact ⟨p, (same p).mpr inside, (leadsOn_iff keys es).mpr led⟩

/-- A rope is to be flattened, if it is a list, and so are its threads and its ends. -/
def strands : Schema where
  definition := .record
    [(Schema.Directive.flatten, .str "rope.threads"),
     ("properties", .record
      [("rope", .record [(Schema.Directive.flatten, .str " rope ")]),
       ("ends", .record [(Schema.Directive.flatten, .str "ends")])])]

theorem strands_flattenPaths : strands.flattenPaths = .ok ["rope.threads", "rope", "ends"] := by
  with_unfolding_all rfl

/-- A rope with threads in lists within lists. -/
def rope : Entries :=
  [(.str "ends", .list [.list [], .str "loose"]),
   (.str "rope", .record
    [("threads", .list [.list [.int 1], .int 2, .list [.list [.int 3], .null]])]),
   (.str "knots", .list [.list [.int 4]])]

theorem rope_ended : ∀ p ∈ ["rope.threads", "rope", "ends"], ∀ v,
    get (.map rope) p = .ok (some v) → isEndless v = false := by
  have threads : get (.map rope) "rope.threads" =
      .ok (some (.list [.list [.int 1], .int 2, .list [.list [.int 3], .null]])) := by
    with_unfolding_all rfl
  have whole : get (.map rope) "rope" = .ok (some (.record
      [("threads", .list [.list [.int 1], .int 2, .list [.list [.int 3], .null]])])) := by
    with_unfolding_all rfl
  have ends : get (.map rope) "ends" = .ok (some (.list [.list [], .str "loose"])) := by
    with_unfolding_all rfl
  simp only [List.forall_mem_cons, threads, whole, ends]
  refine ⟨?_, ?_, ?_, nofun⟩ <;> rintro v ⟨⟩ <;> rfl

/-- The rope is flattened in any order, but not one whose threads lie within themselves. -/
theorem flattenAll_settles_strands :
    strands.flattenPaths = .ok ["rope.threads", "rope", "ends"] ∧
    (∃ out ys,
      flattenAll ["ends", "rope", "rope.threads", "ends"] rope = .ok out ∧
      flattenAll ["rope.threads", "rope", "ends"] out = .ok out ∧
      get (.map out) "rope.threads" = .ok (some (.list ys)) ∧
      LeavesOf [.list [.int 1], .int 2, .list [.list [.int 3], .null]] ys ∧
      get (.map out) "knots" = get (.map rope) "knots") ∧
    flattenAll ["ends", "rope", "rope.threads"]
      [(.str "ends", .list []), (.str "rope", .record [("threads", .list [.cycle false])])] =
        .error (.tooDeep "") := by
  refine ⟨strands_flattenPaths, ?_, ?_⟩
  · obtain ⟨out, anyhow, again, lists, beside⟩ :=
      (flattenAll_settles strands_flattenPaths rope).1 rope_ended
    have threads : get (.map rope) "rope.threads" =
        .ok (some (.list [.list [.int 1], .int 2, .list [.list [.int 3], .null]])) := by
      with_unfolding_all rfl
    obtain ⟨ys, found, leaves, _⟩ := (lists _ List.mem_cons_self).1 _ threads
    refine ⟨out, ys, anyhow _ fun p => ?_, again, found, leaves, ?_⟩
    · simp only [List.mem_cons, List.not_mem_nil, or_false]
      tauto
    · have parsed : parse "knots" = .ok [⟨"knots", false⟩] := by with_unfolding_all rfl
      have threads : plainKeys "rope.threads" = .ok ["rope", "threads"] := by
        with_unfolding_all rfl
      have whole : plainKeys "rope" = .ok ["rope"] := by with_unfolding_all rfl
      have ends : plainKeys "ends" = .ok ["ends"] := by with_unfolding_all rfl
      refine (beside _ _ parsed ?_).1
      simp [IncompRel, threads, whole, ends]
  · refine (flattenAll_settles strands_flattenPaths _).2
      ⟨"rope.threads", List.mem_cons_self, .list [.cycle false], by with_unfolding_all rfl, rfl⟩ _
      fun p => ?_
    simp only [List.mem_cons, List.not_mem_nil, or_false]
    tauto

/-- A list whose only member is itself is not flattened, nor is anything else with it. -/
theorem flattenAll_within :
    ∃ (s : Schema) (paths : List String), s.flattenPaths = .ok paths ∧
      flattenAll paths [(.str "t", .list [.cycle false])] = .error (.tooDeep "") :=
  ⟨⟨.record [(Schema.Directive.flatten, .str "t")], none⟩, ["t"], by with_unfolding_all rfl,
    by with_unfolding_all rfl⟩

end Intake

end Quire
