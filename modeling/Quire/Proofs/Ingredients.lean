import Quire.Proofs.Collection
import Quire.Proofs.Distinct
import Quire.Proofs.Hereditary

/-! What an aggregate is made of. All that it holds comes out of documents or out of
defaults, put together in lists and in mappings with text for keys. So what holds of a
collection just when it holds of its parts goes over from these to the aggregate. -/

namespace Quire

namespace Path

variable {P : Value → Prop}

mutual

/-- What holds of the members of lists it holds of holds of all that lies below them. -/
theorem flattenValue_parts (lists : ∀ xs, P (.list xs) → ∀ x ∈ xs, P x) :
    ∀ v, P v → ∀ x ∈ flattenValue v, P x
  | .list xs, holds => flatten_parts lists xs (lists xs holds)
  | .tuple _, holds | .map _, holds | .set _, holds | .cycle _, holds | .missing _, holds
  | .null, holds | .bool _, holds | .int _, holds | .real _, holds | .str _, holds
  | .date _, holds | .moment _, holds | .time _, holds | .bytes _, holds =>
    fun _ inside => List.mem_singleton.mp inside ▸ holds

theorem flatten_parts (lists : ∀ xs, P (.list xs) → ∀ x ∈ xs, P x) :
    ∀ xs, (∀ x ∈ xs, P x) → ∀ x ∈ flatten xs, P x
  | [], _ => nofun
  | x :: xs, holds => by
    intro y inside
    obtain ⟨first, others⟩ := List.forall_mem_cons.mp holds
    rcases List.mem_append.mp inside with here | later
    · exact flattenValue_parts lists x first y here
    · exact flatten_parts lists xs others y later

end

end Path

namespace Hereditary

variable {K P : Value → Prop} (h : Hereditary K P)
include h

/-! ### Writing -/

theorem inner {v : Option Value} (holds : ∀ w, v = some w → P w) : P (.map (Path.inner v)) := by
  unfold Path.inner
  split
  · exact holds _ rfl
  · exact h.empty

theorem write {es : Entries} (holds : P (.map es)) (keys : List String) {v : Value}
    (value : P v) : P (.map (Path.write es keys v)) := by
  induction keys generalizing es with
  | nil => exact holds
  | cons k rest ih =>
    cases rest with
    | nil => exact h.putField holds k value
    | cons k' rest =>
      have below := ih (h.inner (v := Entries.field? es k) fun _ found => h.field? holds found)
      exact h.putField holds k below

theorem set {es out : Entries} (holds : P (.map es)) {path : String} {v : Value} (value : P v)
    (written : Path.set es path v = .ok out) : P (.map out) := by
  obtain ⟨keys, _, written⟩ := bind_eq_ok.mp written
  obtain rfl := Except.ok.inj written
  exact h.write holds keys value

/-! ### Reading -/

theorem lookup {path : String} {data : Value} (holds : P data) {segments : List Segment}
    {v : Value} (found : Path.lookup path data segments = .ok (some v)) : P v := by
  induction segments generalizing data with
  | nil =>
    obtain rfl := Option.some.inj (Except.ok.inj found)
    exact holds
  | cons s rest ih =>
    unfold Path.lookup at found
    split at found
    · cases found
    · split at found
      · split at found
        · cases found
        · next there => exact ih (h.field? holds there) found
      · cases found

theorem get {path : String} {data v : Value} (holds : P data)
    (found : Path.get data path = .ok (some v)) : P v := by
  obtain ⟨segments, _, found⟩ := bind_eq_ok.mp found
  exact h.lookup holds found

theorem step {s : Segment} {data : Value} (holds : P data) : ∀ v ∈ Path.step s data, P v := by
  unfold Path.step
  split
  · next es =>
    split
    · exact List.forall_mem_nil P
    · next w there =>
      have value := h.field? holds there
      split
      · cases members : w.elements? with
        | none => exact List.forall_mem_nil P
        | some xs => exact h.elements? value members
      · exact fun v inside => List.mem_singleton.mp inside ▸ value
  · exact List.forall_mem_nil P

theorem reach {values : List Value} (holds : ∀ v ∈ values, P v) (segments : List Segment) :
    ∀ v ∈ Path.reach values segments, P v := by
  induction segments generalizing values with
  | nil => exact holds
  | cons s rest ih =>
    refine ih fun v inside => ?_
    obtain ⟨w, there, onward⟩ := List.mem_flatMap.mp inside
    exact h.step (holds w there) v onward

theorem leaves {v : Value} (holds : P v) : ∀ x ∈ Path.leaves v, P x := by
  unfold Path.leaves
  split
  · exact nofun
  · next xs => exact fun x inside => (h.list xs).mp holds x (List.mem_filter.mp inside).1
  · exact fun x inside => List.mem_singleton.mp inside ▸ holds

theorem collect {path : String} {data : Value} (holds : P data) {found : List Value}
    (collected : Path.collect data path = .ok found) : ∀ v ∈ found, P v := by
  obtain ⟨segments, _, collected⟩ := bind_eq_ok.mp collected
  obtain rfl := Except.ok.inj collected
  intro v inside
  obtain ⟨w, there, leaf⟩ := List.mem_flatMap.mp inside
  exact h.leaves (h.reach (by simpa using holds) segments w there) v leaf

/-! ### Within a document -/

theorem flattenAt {es fs : Entries} (holds : P (.map es)) {path : String}
    (flattened : Path.flattenAt es path = .ok fs) : P (.map fs) := by
  obtain ⟨changed, tried, flattened⟩ := bind_eq_ok.mp flattened
  obtain rfl := Except.ok.inj flattened
  obtain ⟨found, got, tried⟩ := bind_eq_ok.mp tried
  split at tried
  · next same =>
    cases same
    obtain ⟨out, written, tried⟩ := bind_eq_ok.mp tried
    obtain rfl := Except.ok.inj tried
    have members := (h.list _).mp (h.get holds got)
    have below := Path.flatten_parts (fun xs => (h.list xs).mp) _ members
    exact h.set holds ((h.list _).mpr below) written
  · obtain rfl := Except.ok.inj tried
    exact holds

theorem flattenOne {es fs : Entries} (holds : P (.map es)) {path : String}
    (flattened : Intake.flattenOne es path = .ok fs) : P (.map fs) := by
  obtain ⟨found, _, flattened⟩ := bind_eq_ok.mp flattened
  have flat : (liftM (Path.flattenAt es path) : Except Mishap Entries) = .ok fs := by
    split at flattened
    · split at flattened
      · cases flattened
      · exact flattened
    · exact flattened
  cases made : Path.flattenAt es path with
  | error e =>
    rw [made] at flat
    cases flat
  | ok out =>
    rw [made] at flat
    obtain rfl := Except.ok.inj flat
    exact h.flattenAt holds made

theorem flattenAll {paths : List String} {es fs : Entries} (holds : P (.map es))
    (flattened : Intake.flattenAll paths es = .ok fs) : P (.map fs) := by
  induction paths generalizing es with
  | nil =>
    obtain rfl := Except.ok.inj flattened
    exact holds
  | cons path paths ih =>
    obtain ⟨next, first, flattened⟩ := bind_eq_ok.mp flattened
    exact ih (h.flattenOne holds first) flattened

/-! ### From documents to the aggregate -/

theorem extract {s : Schema} {documents elements : List Value} (holds : ∀ d ∈ documents, P d)
    (made : (Aggregation.extract s documents).result = .ok elements) : ∀ e ∈ elements, P e := by
  intro e element
  cases collects : s.usableTarget? with
  | none =>
    rw [Aggregation.extract, collects] at made
    exact holds e (Except.ok.inj made ▸ element)
  | some target =>
    rcases Aggregation.extract_offered collects made element with
      whole | ⟨d, inside, xs, got, nested⟩
    · exact holds e whole
    · exact (h.list xs).mp (h.get (holds d inside) got) e nested

theorem gather {target : Option String} {items : List Value} (holds : ∀ v ∈ items, P v)
    {data : Entries} (made : Aggregation.gather target items = .ok data) : P (.map data) := by
  cases target with
  | some target =>
    refine h.set h.empty ((h.list _).mpr fun v inside => ?_) made
    exact holds v (List.mem_filter.mp inside).1
  | none =>
    obtain rfl := Except.ok.inj made
    refine List.foldlRecOn (motive := fun es => P (.map es)) items _ h.empty
      fun acc kept v inside => h.update kept ?_
    cases v with
    | map es => exact holds _ inside
    | _ => exact h.empty

theorem apply {d : Declaration} {data out : Entries} {target : String}
    (holds : P (.map data)) (made : d.apply data = .ok (out, target)) : P (.map out) := by
  obtain ⟨rule, _, applied, _⟩ := Declaration.apply_eq_ok.mp made
  obtain ⟨values, found, written⟩ := bind_eq_ok.mp applied
  refine h.set holds ((h.list _).mpr ?_) written
  obtain ⟨all, collected, found⟩ := bind_eq_ok.mp found
  have each := h.collect holds collected
  obtain rfl := Except.ok.inj found
  intro v inside
  unfold Derivation.kept at inside
  split at inside
  · exact each v (mem_dedupe inside)
  · exact each v inside

theorem derive {data : Entries} (holds : P (.map data)) {report : AggregationReport}
    {declared : List Declaration} {a : Aggregation}
    (done : (Aggregation.derive data report declared).result = .ok a) : P (.map a.data) :=
  Aggregation.derive_kept (fun es => P (.map es)) (fun _ _ _ _ _ => h.apply) holds done

theorem populate {s : Schema} {data out : Entries} (holds : P (.map data))
    (defaults : ∀ b ∈ s.baseProperties, ∀ value, b.default = some value → P value.copied)
    (filled : (Defaults.populate s data).result = .ok out) : P (.map out) := by
  refine Defaults.populate_kept (fun es => P (.map es))
    (fun b declared value default es es' changed kept made => ?_) holds filled
  obtain ⟨there, _, made⟩ := bind_eq_ok.mp made
  cases there with
  | true =>
    obtain ⟨rfl, _⟩ := Prod.mk.inj (Except.ok.inj made)
    exact kept
  | false =>
    obtain ⟨out', written, made⟩ := bind_eq_ok.mp made
    obtain ⟨rfl, _⟩ := Prod.mk.inj (Except.ok.inj made)
    exact h.set kept (defaults b declared value default) written

/-- What holds of all documents and of all defaults holds of the aggregate. -/
theorem aggregate {s : Schema} {documents : List Document} {data : Entries}
    {report : AggregationReport} (holds : ∀ d ∈ documents, P (.map d.metadata))
    (defaults : ∀ b ∈ s.baseProperties, ∀ value, b.default = some value → P value.copied)
    (made : (Pipeline.aggregate s documents).result = .ok (data, report)) : P (.map data) := by
  obtain ⟨elements, extracted, made⟩ := Attempt.bind_eq_ok.mp made
  obtain ⟨a, attempted, made⟩ := Attempt.bind_eq_ok.mp made
  obtain ⟨out, filled, made⟩ := Attempt.bind_eq_ok.mp made
  obtain ⟨rfl, _⟩ := Prod.mk.inj (Except.ok.inj made)
  have parts := h.extract (by simpa using holds) extracted
  obtain ⟨gathered, first, derived⟩ := Aggregation.aggregate_eq_ok.mp attempted
  exact h.populate (h.derive (h.gather parts first) derived) defaults filled

end Hereditary
end Quire
