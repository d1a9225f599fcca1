import Quire.Defaults
import Quire.Proofs.Derivations
import Quire.Proofs.Entries

/-! Writing at one path leaves what another leads to, as long as neither path leads to
or through the other. So do derivations and defaults, which write at their paths. Defaults
moreover are written only where nothing is, so that they leave a list that is there. -/

namespace Quire

namespace Path

open Schema.Pointer (descend)

/-- Neither of two paths lies at the other, above it or below it. -/
def Apart (p q : String) : Prop :=
  ∀ ks ls, plainKeys p = .ok ks → plainKeys q = .ok ls → ¬ks <+: ls ∧ ¬ls <+: ks

theorem Apart.symm {p q : String} (apart : Apart p q) : Apart q p :=
  fun ks ls reads reads' => (apart ls ks reads' reads).symm

theorem descend_inner (found : Option Value) (l : String) (ls : List String) :
    descend (l :: ls) (.map (inner found)) = found.bind (descend (l :: ls)) := by
  cases found with
  | none => rfl
  | some v => cases v <;> rfl

theorem descend_write_self (es : Entries) {ks : List String} (some : ks ≠ []) (v : Value) :
    descend ks (.map (write es ks v)) = Option.some v := by
  induction ks generalizing es with
  | nil => exact absurd rfl some
  | cons k ks ih =>
    cases ks with
    | nil => simp [write, descend]
    | cons k' ks =>
      rw [write, descend, Entries.field?_putField_self]
      · exact ih _ (List.cons_ne_nil _ _)
      · exact List.cons_ne_nil k' ks

theorem descend_write_apart (es : Entries) {ks ls : List String} (up : ¬ks <+: ls)
    (down : ¬ls <+: ks) (v : Value) :
    descend ls (.map (write es ks v)) = descend ls (.map es) := by
  induction ks generalizing es ls with
  | nil => exact absurd List.nil_prefix up
  | cons k ks ih =>
    cases ls with
    | nil => exact absurd List.nil_prefix down
    | cons l ls =>
      by_cases same : k = l
      · subst same
        have up : ¬ks <+: ls := fun h => up (List.prefix_cons_inj k |>.mpr h)
        have down : ¬ls <+: ks := fun h => down (List.prefix_cons_inj k |>.mpr h)
        cases ks with
        | nil => exact absurd List.nil_prefix up
        | cons k' ks =>
          cases ls with
          | nil => exact absurd List.nil_prefix down
          | cons l' ls =>
            rw [write, descend, Entries.field?_putField_self, descend, Option.bind_some,
              ih _ up down, descend_inner]
            exact List.cons_ne_nil k' ks
      · cases ks with
        | nil => rw [write, descend, descend, Entries.field?_putField_of_ne _ same]
        | cons k' ks =>
          rw [write, descend, descend, Entries.field?_putField_of_ne _ same]
          exact List.cons_ne_nil k' ks

/-- Writing at a path leaves what a path apart from it leads to. -/
theorem set_apart {p q : String} (apart : Apart p q) {ls : List String}
    (reads : plainKeys q = .ok ls) {es out : Entries} {v : Value} (written : set es p v = .ok out) :
    descend ls (.map out) = descend ls (.map es) := by
  obtain ⟨ks, keys, written⟩ := bind_eq_ok.mp written
  obtain rfl := Except.ok.inj written
  obtain ⟨up, down⟩ := apart ks ls keys reads
  exact descend_write_apart es up down v

theorem Apart.strip {p q : String} (apart : Apart p q) : Apart (Text.strip p) q :=
  fun ks ls reads => apart ks ls (plainKeys_strip.mp reads)

/-- One path leads further on from where the other leads. -/
def Below (p q : String) : Prop :=
  ∃ ks ls, plainKeys p = .ok ks ∧ plainKeys q = .ok ls ∧ ls <+: ks ∧ ls ≠ ks

theorem Apart.not_below {p q : String} (apart : Apart p q) : ¬Below p q :=
  fun ⟨ks, ls, keys, reads, under, _⟩ => (apart ks ls keys reads).2 under

/-- On the way to something there is something. -/
theorem present_above {ks rest : List String} {data v : Value}
    (there : descend (ks ++ rest) data = some v) (shown : v ≠ .missing false) :
    (Value.present (descend ks data)).isSome := by
  induction ks generalizing data with
  | nil =>
    cases rest with
    | nil =>
      obtain rfl := Option.some.inj there
      unfold Value.present
      split
      · next none => exact absurd (Option.some.inj none) shown
      · rfl
    | cons k rest =>
      cases data with
      | map es => rfl
      | _ => cases there
  | cons k ks ih =>
    cases data with
    | map es =>
      obtain ⟨next, found, there⟩ := Option.bind_eq_some_iff.mp there
      simpa only [descend, found, Option.bind_some] using ih there
    | _ => cases there

end Path

open Schema.Pointer (descend)

/-- Where derived fields and base properties are written, all of it apart from a path. -/
structure Schema.Spares (s : Schema) (path : String) : Prop where
  derivations : ∀ d ∈ s.derivations, Path.Apart d.target path
  baseProperties : ∀ b ∈ s.baseProperties, Path.Apart b.path path

variable {path : String} {ls : List String}

theorem Declaration.apply_apart (reads : Path.plainKeys path = .ok ls) {d : Declaration}
    (apart : ∀ t, d.target = .str t → Path.Apart t path) {data out : Entries} {target : String}
    (done : d.apply data = .ok (out, target)) : descend ls (.map out) = descend ls (.map data) := by
  obtain ⟨rule, made, applied, _⟩ := apply_eq_ok.mp done
  obtain ⟨_, t, _, named, _, _, rfl⟩ := Derivation.create_eq_ok.mp made
  obtain ⟨values, _, written⟩ := bind_eq_ok.mp applied
  exact Path.set_apart (apart t named).strip reads written

namespace Aggregation

/-- Derived fields leave what lies apart from them. -/
theorem derive_apart (reads : Path.plainKeys path = .ok ls) {specs : List DerivationSpec}
    (apart : ∀ d ∈ specs, Path.Apart d.target path) {data : Entries} {report : AggregationReport}
    {a : Aggregation}
    (done : (derive data report (specs.map DerivationSpec.declaration)).result = .ok a) :
    descend ls (.map a.data) = descend ls (.map data) := by
  refine derive_kept (fun es => descend ls (.map es) = descend ls (.map data))
    (fun d inside es out target same applied => ?_) rfl done
  obtain ⟨spec, declared, rfl⟩ := List.mem_map.mp inside
  rw [Declaration.apply_apart reads _ applied, same]
  rintro t named
  obtain rfl := Value.str.inj named
  exact apart spec declared

end Aggregation

theorem Defaults.fill_apart (reads : Path.plainKeys path = .ok ls) (r : Rule)
    (apart : Path.Apart r.path path) {data out : Entries} {changed : Bool}
    (done : fill data r = .ok (out, changed)) :
    descend ls (.map out) = descend ls (.map data) := by
  obtain ⟨there, _, done⟩ := bind_eq_ok.mp done
  cases there with
  | true =>
    obtain ⟨rfl, _⟩ := Prod.mk.inj (Except.ok.inj done)
    rfl
  | false =>
    obtain ⟨out', written, done⟩ := bind_eq_ok.mp done
    obtain ⟨rfl, _⟩ := Prod.mk.inj (Except.ok.inj done)
    exact Path.set_apart apart reads written

theorem Defaults.populateWith_cons {r : Rule} (rules : List Rule) {data mid : Entries}
    {changed : Bool} (done : fill data r = .ok (mid, changed)) :
    (populateWith data (r :: rules)).result = (populateWith mid rules).result := by
  rw [populateWith, done]
  cases changed <;> rfl

theorem Defaults.populateWith_cons_eq_ok {r : Rule} {rules : List Rule} {data out : Entries}
    (filled : (populateWith data (r :: rules)).result = .ok out) :
    ∃ mid changed, fill data r = .ok (mid, changed) ∧
      (populateWith mid rules).result = .ok out := by
  cases done : fill data r with
  | error e =>
    rw [populateWith, done] at filled
    cases filled
  | ok made =>
    obtain ⟨mid, changed⟩ := made
    exact ⟨mid, changed, rfl, populateWith_cons rules done ▸ filled⟩

/-- What is kept when any of the fields is filled in is kept when all of them are. -/
theorem Defaults.populateWith_kept (Kept : Entries → Prop) {rules : List Rule}
    (fills : ∀ r ∈ rules, ∀ data out changed, Kept data → fill data r = .ok (out, changed) →
      Kept out)
    {data out : Entries} (start : Kept data) (filled : (populateWith data rules).result = .ok out) :
    Kept out := by
  induction rules generalizing data with
  | nil =>
    obtain rfl := Except.ok.inj filled
    exact start
  | cons r rules ih =>
    obtain ⟨mid, changed, done, filled⟩ := populateWith_cons_eq_ok filled
    have first := fills r List.mem_cons_self data mid changed start done
    exact ih (fun r' inside => fills r' (List.mem_cons_of_mem r inside)) first filled

theorem Defaults.populate_kept (Kept : Entries → Prop) {s : Schema}
    (fills : ∀ b ∈ s.baseProperties, ∀ value, b.default = some value → ∀ data out changed,
      Kept data → fill data ⟨b.path, value⟩ = .ok (out, changed) → Kept out)
    {data out : Entries} (start : Kept data) (filled : (populate s data).result = .ok out) :
    Kept out := by
  obtain ⟨rs, made, filled⟩ := Attempt.bind_eq_ok.mp filled
  refine populateWith_kept Kept (fun r inside => ?_) start filled
  unfold rules at made
  split at made
  · obtain rfl := Except.ok.inj made
    obtain ⟨b, declared, made⟩ := List.mem_filterMap.mp inside
    obtain ⟨value, default, rfl⟩ := Option.map_eq_some_iff.mp made
    exact fills b declared value default
  · cases made

/-- Defaults leave what lies apart from them. -/
theorem Defaults.populate_apart (reads : Path.plainKeys path = .ok ls) {s : Schema}
    (apart : ∀ b ∈ s.baseProperties, Path.Apart b.path path) {data out : Entries}
    (filled : (populate s data).result = .ok out) :
    descend ls (.map out) = descend ls (.map data) := by
  refine populate_kept (fun es => descend ls (.map es) = descend ls (.map data))
    (fun b inside value _ es es' changed same done => ?_) rfl filled
  rw [fill_apart reads ⟨b.path, value⟩ (apart b inside) done, same]

/-- A default is not filled in where something is, nor above it. -/
theorem Defaults.fill_keeps (reads : Path.plainKeys path = .ok ls) (r : Rule)
    (beside : ¬Path.Below r.path path) {data out : Entries} {v : Value}
    (there : descend ls (.map data) = some v) (shown : v ≠ .missing false) {changed : Bool}
    (done : fill data r = .ok (out, changed)) : descend ls (.map out) = some v := by
  obtain ⟨held, looked, done⟩ := bind_eq_ok.mp done
  cases held with
  | true =>
    obtain ⟨rfl, _⟩ := Prod.mk.inj (Except.ok.inj done)
    exact there
  | false =>
    obtain ⟨out', written, done⟩ := bind_eq_ok.mp done
    obtain ⟨rfl, _⟩ := Prod.mk.inj (Except.ok.inj done)
    obtain ⟨ks, keys, written⟩ := bind_eq_ok.mp written
    obtain rfl := Except.ok.inj written
    have missing : (Value.present (descend ks (.map data))).isSome = false := by
      rw [Path.has, Path.find, Path.get_of_plainKeys keys] at looked
      exact Except.ok.inj looked
    have up : ¬ks <+: ls := by
      rintro ⟨rest, rfl⟩
      rw [Path.present_above there shown] at missing
      cases missing
    have down : ¬ls <+: ks := fun under =>
      beside ⟨ks, ls, keys, reads, under, fun same => up (same ▸ List.prefix_rfl)⟩
    rw [Path.descend_write_apart data up down, there]

/-- Defaults leave a list that none of them lies below. -/
theorem Defaults.populate_keeps (reads : Path.plainKeys path = .ok ls) {s : Schema}
    (beside : ∀ b ∈ s.baseProperties, ¬Path.Below b.path path) {data out : Entries}
    {xs : List Value} (there : descend ls (.map data) = some (.list xs))
    (filled : (populate s data).result = .ok out) : descend ls (.map out) = some (.list xs) :=
  populate_kept (fun es => descend ls (.map es) = some (.list xs))
    (fun b inside value _ _ _ _ there done =>
      fill_keeps reads ⟨b.path, value⟩ (beside b inside) there nofun done) there filled

end Quire
