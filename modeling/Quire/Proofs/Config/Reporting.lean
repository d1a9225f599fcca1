import Mathlib.Data.List.Forall2
import Quire.Config.Report
import Quire.Proofs.Named
import Quire.Proofs.Sameness

/-! What the report of settings holds. Each setting is under its name as it is, unless it is
null and left out; a group within a group is there as the report of its own. Equal settings
have equal reports. -/

namespace Quire

open Entries

namespace Entries

variable {es fs : Entries} {k v : Value}

theorem put_of_new (new : has es k = false) : put es k v = es ++ [(k, v)] := by
  induction es with
  | nil => rfl
  | cons e es ih =>
    obtain ⟨k', w⟩ := e
    rw [has_cons, Bool.or_eq_false_iff] at new
    simp [put, new.1, ih new.2]

theorem update_of_apart (apart : (es ++ fs).Pairwise fun e later => ¬e.1.same later.1) :
    update es fs = es ++ fs := by
  induction fs generalizing es with
  | nil => exact (List.append_nil es).symm
  | cons f fs ih =>
    have new : has es f.1 = false := by
      rw [has, List.any_eq_false]
      exact fun e inside => (List.pairwise_append.mp apart).2.2 e inside f List.mem_cons_self
    have next := List.append_cons es f fs
    rw [next] at apart
    rw [next, ← ih apart, ← put_of_new new]
    rfl

/-- Entries whose keys are all apart are written as they are. -/
theorem ofList_of_apart (apart : fs.Pairwise fun e later => ¬e.1.same later.1) :
    ofList fs = fs := update_of_apart apart

end Entries

namespace Value

/-- Left out if it is null, and else reported as it is. -/
def Told (v : Value) : Prop := v.reported? = v.nonNull

variable {v w : Value}

theorem Told.reported (told : v.Told) (there : v.isNull = false) : v.reported? = some v := by
  rw [told, nonNull, there]
  rfl

theorem Told.eq (told : v.Told) (came : v.reported? = some w) : w = v := by
  rw [told, nonNull] at came
  split at came
  · cases came
  · exact (Option.some.inj came).symm

theorem isNull_of_same (same : v.same w) : v.isNull = w.isNull := by
  cases v with
  | null =>
    rw [(rigid_same rfl).mp same]
  | _ => cases w <;> simp_all [Value.same, isNull, number?]

end Value

/-! ### Reports -/

variable {fs gs : List (String × Value)}

/-- The entries of a report. -/
def reportedEntries (fs : List (String × Value)) : Entries :=
  fs.filterMap fun f => f.2.reported?.map fun v => (.str f.1, v)

theorem reportOf_eq (fs : List (String × Value)) : reportOf fs = .map (reportedEntries fs) := by
  rw [reportOf, Value.record, reportedEntries, List.map_filterMap]
  simp only [Option.map_map, Function.comp_def]

theorem mem_reportedEntries {e : Value × Value} (inside : e ∈ reportedEntries fs) :
    ∃ f ∈ fs, e.1 = .str f.1 ∧ f.2.reported? = some e.2 := by
  obtain ⟨f, among, told⟩ := List.mem_filterMap.mp inside
  obtain ⟨v, there, rfl⟩ := Option.map_eq_some_iff.mp told
  exact ⟨f, among, rfl, there⟩

theorem field?_reportedEntries_of_notMem {name : String} (other : name ∉ fs.map (·.1)) :
    field? (reportedEntries fs) name = none := by
  rw [field?, get?_eq_none, has, List.any_eq_false]
  intro e inside same
  obtain ⟨f, among, key, _⟩ := mem_reportedEntries inside
  rw [key, Value.same_str, Value.str.injEq] at same
  exact other (same ▸ List.mem_map_of_mem among)

/-- A report has each setting under its name. -/
theorem field?_reportedEntries (apart : (fs.map (·.1)).Nodup) :
    ∀ f ∈ fs, field? (reportedEntries fs) f.1 = f.2.reported? := by
  induction fs with
  | nil => exact nofun
  | cons f fs ih =>
    obtain ⟨other, apart⟩ := List.nodup_cons.mp apart
    rw [List.forall_mem_cons]
    constructor
    · have absent := field?_reportedEntries_of_notMem other
      simp only [field?, reportedEntries] at absent ⊢
      cases told : f.2.reported? <;> simp [told, absent]
    · intro g among
      have ne : f.1 ≠ g.1 := fun same => other (List.mem_map.mpr ⟨g, among, same.symm⟩)
      have there := ih apart g among
      simp only [field?, reportedEntries] at there ⊢
      cases told : f.2.reported? <;> simp [told, there, ne]

theorem reportOf_entries (fs : List (String × Value)) (apart : (fs.map (·.1)).Nodup) :
    ∃ es, reportOf fs = .map es ∧ ∀ f ∈ fs, field? es f.1 = f.2.reported? :=
  ⟨reportedEntries fs, reportOf_eq fs, field?_reportedEntries apart⟩

theorem reportedEntries_apart (apart : (fs.map (·.1)).Nodup) :
    (reportedEntries fs).Pairwise fun e later => ¬e.1.same later.1 := by
  refine List.Pairwise.filterMap _ (fun f g ne e told e' told' => ?_) (List.pairwise_map.mp apart)
  obtain ⟨v, _, rfl⟩ := Option.map_eq_some_iff.mp told
  obtain ⟨w, _, rfl⟩ := Option.map_eq_some_iff.mp told'
  simpa using ne

theorem reportedFields_eq_self {es : Entries} (named : es.Named)
    (plain : ∀ e ∈ es, e.2.reported? = some e.2) : Value.reportedFields es = es := by
  induction es with
  | nil => rfl
  | cons e es ih =>
    obtain ⟨k, v⟩ := e
    rw [Named, keys, List.map_cons, List.forall_mem_cons] at named
    rw [List.forall_mem_cons] at plain
    obtain ⟨⟨name, rfl⟩, named⟩ := named
    rw [Value.reportedFields, plain.1, ih named plain.2]
    rfl

/-- The report of a group is reported as it is, within the report of another. -/
theorem reported_reportOf (apart : (fs.map (·.1)).Nodup) (told : ∀ f ∈ fs, f.2.Told) :
    (reportOf fs).Told := by
  have named : Named (reportedEntries fs) := by
    intro k inside
    obtain ⟨e, among, rfl⟩ := List.mem_map.mp inside
    obtain ⟨f, _, key, _⟩ := mem_reportedEntries among
    exact ⟨f.1, key⟩
  have plain : ∀ e ∈ reportedEntries fs, e.2.reported? = some e.2 := by
    intro e inside
    obtain ⟨f, among, _, came⟩ := mem_reportedEntries inside
    rw [← (told f among).eq came] at came
    exact came
  rw [reportOf_eq, Value.Told, Value.reported?, reportedFields_eq_self named plain,
    ofList_of_apart (reportedEntries_apart apart)]
  rfl

/-- Settings under one name that are equal. -/
structure Alike (f g : String × Value) : Prop where
  name : f.1 = g.1
  same : f.2.same g.2

theorem Alike.reported {f g : String × Value} (alike : Alike f g) (told : f.2.Told)
    (told' : g.2.Told) :
    Option.Rel (fun e d : Value × Value => e.1.same d.1 ∧ e.2.same d.2)
      (f.2.reported?.map fun v => (.str f.1, v)) (g.2.reported?.map fun v => (.str g.1, v)) := by
  rw [told, told', Value.nonNull, Value.nonNull, ← Value.isNull_of_same alike.same]
  split
  · exact .none
  · exact .some ⟨by simp [alike.name], alike.same⟩

/-- Equal settings have equal reports. -/
theorem reportOf_same (alike : List.Forall₂ Alike fs gs) (told : ∀ f ∈ fs, f.2.Told)
    (told' : ∀ g ∈ gs, g.2.Told) : (reportOf fs).same (reportOf gs) := by
  have entries : List.Forall₂ (fun e d : Value × Value => e.1.same d.1 ∧ e.2.same d.2)
      (reportedEntries fs) (reportedEntries gs) := by
    refine List.rel_filterMap (R := fun f g => Alike f g ∧ f.2.Told ∧ g.2.Told)
      (fun f g both => both.1.reported both.2.1 both.2.2) ?_
    induction alike with
    | nil => exact .nil
    | cons one _ ih =>
      rw [List.forall_mem_cons] at told told'
      exact .cons ⟨one, told.1, told'.1⟩ (ih told.2 told'.2)
  rw [reportOf_eq, reportOf_eq]
  refine Value.map_same.mpr ⟨_, rfl, entries.length_eq, fun e inside => ?_⟩
  obtain ⟨i, bound, rfl⟩ := List.getElem_of_mem inside
  have bound' : i < (reportedEntries gs).length := entries.length_eq ▸ bound
  exact ⟨_, List.getElem_mem bound', entries.get bound bound'⟩

end Quire
