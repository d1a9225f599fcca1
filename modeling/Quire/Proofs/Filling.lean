import Quire.Proofs.Writing

/-! What defaults come to. A default is written where nothing is, so whatever its path, what
is there stays there, except that on the way to a default a value that is no mapping gives way
to one. Once all defaults are filled in there is something at each of their paths, and filling
them in again changes nothing. -/

namespace Quire

open Schema.Pointer (descend)

/-- A base property that can be filled in: it has a default, and its path names one place. -/
structure BaseProperty.Usable (b : BaseProperty) : Prop where
  valued : b.default.isSome
  placed : ∃ ks, Path.plainKeys b.path = .ok ks

theorem Value.present_eq_some {found : Option Value} {v : Value} :
    present found = some v ↔ found = some v ∧ v ≠ .missing false := by
  unfold present
  split
  · constructor
    · exact nofun
    · rintro ⟨same, shown⟩
      exact absurd (Option.some.inj same).symm shown
  · next other =>
    refine ⟨fun same => ⟨same, ?_⟩, And.left⟩
    rintro rfl
    exact other same

namespace Path

/-- Something is at the end of the keys, and it does not stand for nothing. -/
def Held (ks : List String) (es : Entries) : Prop :=
  (Value.present (descend ks (.map es))).isSome

variable {p q : String} {ks ls : List String}

theorem held_iff {es : Entries} :
    Held ks es ↔ ∃ v, descend ks (.map es) = some v ∧ v ≠ .missing false := by
  simp only [Held, Option.isSome_iff_exists, Value.present_eq_some]

theorem below_iff (reads : plainKeys p = .ok ks) (reads' : plainKeys q = .ok ls) :
    Below p q ↔ ∃ k rest, ks = ls ++ k :: rest := by
  constructor
  · rintro ⟨ks', ls', keys, keys', ⟨rest, whole⟩, other⟩
    obtain rfl := Except.ok.inj (reads.symm.trans keys)
    obtain rfl := Except.ok.inj (reads'.symm.trans keys')
    cases rest with
    | nil => exact absurd (List.append_nil ls ▸ whole) other
    | cons k rest => exact ⟨k, rest, whole.symm⟩
  · rintro ⟨k, rest, rfl⟩
    exact ⟨_, ls, reads, reads', List.prefix_append ls _, by simp⟩

theorem has_of_plainKeys (reads : plainKeys p = .ok ks) (es : Entries) :
    has (.map es) p = .ok (Value.present (descend ks (.map es))).isSome := by
  rw [has, find, get_of_plainKeys reads]
  rfl

theorem has_iff (reads : plainKeys p = .ok ks) (es : Entries) :
    has (.map es) p = .ok true ↔ Held ks es := by
  rw [has_of_plainKeys reads, Held, Except.ok.injEq]

/-- A key is added at the end, if it is not there. -/
theorem prefix_keys_write (es : Entries) (k : String) (ks : List String) (v : Value) :
    Entries.keys es <+: Entries.keys (write es (k :: ks) v) := by
  rw [keys_write, Entries.keysWith]
  split
  · exact List.prefix_rfl
  · exact List.prefix_append _ _

/-- What leads on is a mapping. -/
theorem map_of_descend_append {k : String} {data v : Value}
    (there : descend (ls ++ k :: ks) data = some v) :
    ∃ es, descend ls data = some (.map es) := by
  rw [descend_append] at there
  obtain ⟨below, found, there⟩ := Option.bind_eq_some_iff.mp there
  cases below with
  | map es => exact ⟨es, found⟩
  | _ => cases there

end Path

namespace Defaults

variable {r : Rule} {rs : List Rule} {ks ls : List String} {data out : Entries}
  {changed : Bool}

/-! ### One default -/

theorem fill_eq (reads : Path.plainKeys r.path = .ok ks) (data : Entries) :
    fill data r = .ok (if (Value.present (descend ks (.map data))).isSome then (data, false)
      else (Path.write data ks r.value.copied, true)) := by
  rw [fill, Path.has_of_plainKeys reads]
  cases (Value.present (descend ks (.map data))).isSome with
  | true => rfl
  | false =>
    simp only [bind, Except.bind, Path.set_eq reads]
    rfl

theorem fill_held (there : Path.has (.map data) r.path = .ok true) :
    fill data r = .ok (data, false) := by
  rw [fill, there]
  rfl

/-- What is there stays, or it lies on the way to the default and that is written into it. -/
theorem fill_there (reads : Path.plainKeys r.path = .ok ks)
    (done : fill data r = .ok (out, changed)) {v : Value}
    (there : descend ls (.map data) = some v) (shown : v ≠ .missing false) :
    descend ls (.map out) = some v ∨
      ∃ k rest, ks = ls ++ k :: rest ∧
        descend ls (.map out) =
          some (.map (Path.write (Path.inner (some v)) (k :: rest) r.value.copied)) := by
  rw [fill_eq reads] at done
  split at done
  · obtain ⟨rfl, _⟩ := Prod.mk.inj (Except.ok.inj done)
    exact .inl there
  · next absent =>
    obtain ⟨rfl, _⟩ := Prod.mk.inj (Except.ok.inj done)
    have up : ¬ks <+: ls := by
      rintro ⟨rest, rfl⟩
      exact absent (Path.present_above there shown)
    by_cases down : ls <+: ks
    · obtain ⟨rest, rfl⟩ := down
      cases rest with
      | nil => exact absurd ⟨[], by simp⟩ up
      | cons k rest =>
        refine .inr ⟨k, rest, rfl, ?_⟩
        rw [Path.descend_write_above data ls (List.cons_ne_nil k rest), there]
    · left
      rw [Path.descend_write_apart data up down, there]

theorem fill_fills (reads : Path.plainKeys r.path = .ok ks)
    (done : fill data r = .ok (out, changed)) : Path.Held ks out := by
  rw [fill_eq reads] at done
  split at done
  · next present =>
    obtain ⟨rfl, _⟩ := Prod.mk.inj (Except.ok.inj done)
    exact present
  · obtain ⟨rfl, _⟩ := Prod.mk.inj (Except.ok.inj done)
    rw [Path.Held, Path.descend_write_self data (Path.plainKeys_ne_nil reads), Value.present_copied]
    rfl

/-- A default takes nothing away, wherever its path goes. -/
theorem fill_holds (reads : Path.plainKeys r.path = .ok ks)
    (done : fill data r = .ok (out, changed)) (held : Path.Held ls data) : Path.Held ls out := by
  obtain ⟨v, there, shown⟩ := Path.held_iff.mp held
  rcases fill_there reads done there shown with kept | ⟨k, rest, _, within⟩
  · exact Path.held_iff.mpr ⟨v, kept, shown⟩
  · exact Path.held_iff.mpr ⟨_, within, nofun⟩

/-- The keys of each mapping keep their places. -/
theorem fill_keys (reads : Path.plainKeys r.path = .ok ks)
    (done : fill data r = .ok (out, changed)) {es : Entries}
    (there : descend ls (.map data) = some (.map es)) :
    ∃ fs, descend ls (.map out) = some (.map fs) ∧ Entries.keys es <+: Entries.keys fs := by
  rcases fill_there reads done there nofun with kept | ⟨k, rest, _, within⟩
  · exact ⟨es, kept, List.prefix_rfl⟩
  · exact ⟨_, within, Path.prefix_keys_write es k rest _⟩

/-! ### All defaults -/

theorem populateWith_ok (plain : ∀ r ∈ rs, ∃ ks, Path.plainKeys r.path = .ok ks)
    (data : Entries) : ∃ out, (populateWith data rs).result = .ok out := by
  induction rs generalizing data with
  | nil => exact ⟨data, rfl⟩
  | cons r rs ih =>
    obtain ⟨ks, reads⟩ := plain r List.mem_cons_self
    rw [populateWith_cons rs (fill_eq reads data)]
    exact ih (fun r' inside => plain r' (List.mem_cons_of_mem r inside)) _

/-- Where no default is needed, nothing is done and nothing noted. -/
theorem populateWith_held (there : ∀ r ∈ rs, Path.has (.map data) r.path = .ok true) :
    populateWith data rs = ⟨[], .ok data⟩ := by
  induction rs with
  | nil => rfl
  | cons r rs ih =>
    rw [populateWith, fill_held (there r List.mem_cons_self)]
    exact ih fun r' inside => there r' (List.mem_cons_of_mem r inside)

theorem populateWith_holds (plain : ∀ r ∈ rs, ∃ ks, Path.plainKeys r.path = .ok ks)
    (held : Path.Held ls data) (filled : (populateWith data rs).result = .ok out) :
    Path.Held ls out := by
  refine populateWith_kept (Path.Held ls) (fun r inside es fs changed held done => ?_) held filled
  obtain ⟨ks, reads⟩ := plain r inside
  exact fill_holds reads done held

/-- What was filled in by one default is still there after all those that follow. -/
theorem populateWith_fills (plain : ∀ r ∈ rs, ∃ ks, Path.plainKeys r.path = .ok ks)
    (filled : (populateWith data rs).result = .ok out) :
    ∀ r ∈ rs, Path.has (.map out) r.path = .ok true := by
  induction rs generalizing data with
  | nil => exact nofun
  | cons r rs ih =>
    obtain ⟨mid, changed, done, filled⟩ := populateWith_cons_eq_ok filled
    obtain ⟨first, others⟩ := List.forall_mem_cons.mp plain
    obtain ⟨ks, reads⟩ := first
    refine List.forall_mem_cons.mpr ⟨(Path.has_iff reads out).mpr ?_, ih others filled⟩
    exact populateWith_holds others (fill_fills reads done) filled

theorem populateWith_keys (plain : ∀ r ∈ rs, ∃ ks, Path.plainKeys r.path = .ok ks)
    (filled : (populateWith data rs).result = .ok out) {es : Entries}
    (there : descend ls (.map data) = some (.map es)) :
    ∃ fs, descend ls (.map out) = some (.map fs) ∧ Entries.keys es <+: Entries.keys fs := by
  refine populateWith_kept
    (fun all => ∃ fs, descend ls (.map all) = some (.map fs) ∧ Entries.keys es <+: Entries.keys fs)
    (fun r inside before after changed kept done => ?_) ⟨es, there, List.prefix_rfl⟩ filled
  obtain ⟨ks, reads⟩ := plain r inside
  obtain ⟨fs, there, front⟩ := kept
  obtain ⟨gs, there, more⟩ := fill_keys reads done there
  exact ⟨gs, there, front.trans more⟩

/-! ### Declared defaults -/

variable {declared : List BaseProperty}

/-- Each rule is for the path of a base property. -/
theorem rules_paths {rs : List Rule} (made : rules declared = .ok rs) :
    ∀ r ∈ rs, ∃ b ∈ declared, r.path = b.path := by
  intro r inside
  unfold rules at made
  split at made
  · obtain rfl := Except.ok.inj made
    obtain ⟨b, declared, made⟩ := List.mem_filterMap.mp inside
    obtain ⟨value, _, rfl⟩ := Option.map_eq_some_iff.mp made
    exact ⟨b, declared, rfl⟩
  · cases made

/-- Each base property that can be filled in has a rule. -/
theorem rules_of_usable (usable : ∀ b ∈ declared, b.Usable) :
    ∃ rs, rules declared = .ok rs ∧ ∀ b ∈ declared, ∃ r ∈ rs, r.path = b.path := by
  have none : missing declared = [] := by
    rw [missing, List.map_eq_nil_iff, List.filter_eq_nil_iff]
    intro b inside lacks
    have valued := (usable b inside).valued
    rw [Option.isNone_iff_eq_none.mp lacks] at valued
    cases valued
  refine ⟨declared.filterMap ruleOf?, by rw [rules, none]; rfl, fun b inside => ?_⟩
  obtain ⟨value, valued⟩ := Option.isSome_iff_exists.mp (usable b inside).valued
  exact ⟨⟨b.path, value⟩, List.mem_filterMap.mpr ⟨b, inside, by rw [ruleOf?, valued]; rfl⟩, rfl⟩

/-- Defaults that can be filled in are, wherever their paths go. -/
theorem populateWith_usable (usable : ∀ b ∈ declared, b.Usable) (data : Entries) :
    ∃ rs out, rules declared = .ok rs ∧ (∀ r ∈ rs, ∃ ks, Path.plainKeys r.path = .ok ks) ∧
      (populateWith data rs).result = .ok out ∧
      (∀ r ∈ rs, Path.has (.map out) r.path = .ok true) ∧
      ∀ b ∈ declared, Path.has (.map out) b.path = .ok true := by
  obtain ⟨rs, made, each⟩ := rules_of_usable usable
  have plain : ∀ r ∈ rs, ∃ ks, Path.plainKeys r.path = .ok ks := by
    intro r inside
    obtain ⟨b, declared, same⟩ := rules_paths made r inside
    exact same ▸ (usable b declared).placed
  obtain ⟨out, filled⟩ := populateWith_ok plain data
  have there := populateWith_fills plain filled
  refine ⟨rs, out, made, plain, filled, there, fun b inside => ?_⟩
  obtain ⟨r, inside, same⟩ := each b inside
  exact same ▸ there r inside

/-- Whatever the paths of the defaults are, and whatever is on the way, after filling them in
there is something at each of the paths, and filling them in again changes nothing and notes
nothing. In each mapping of the data, the outermost one and those in it, the keys keep their
places, and keys that are new come after them. -/
theorem populateWith_settles (usable : ∀ b ∈ declared, b.Usable) (data : Entries) :
    ∃ rs out, rules declared = .ok rs ∧ (populateWith data rs).result = .ok out ∧
      populateWith out rs = ⟨[], .ok out⟩ ∧
      (∀ b ∈ declared, Path.has (.map out) b.path = .ok true) ∧
      ∀ ks es, descend ks (.map data) = some (.map es) →
        ∃ fs, descend ks (.map out) = some (.map fs) ∧ Entries.keys es <+: Entries.keys fs := by
  obtain ⟨rs, out, made, plain, filled, there, each⟩ := populateWith_usable usable data
  exact ⟨rs, out, made, filled, populateWith_held there, each,
    fun ks es found => populateWith_keys plain filled found⟩

/-- One default under a name that is there, and one on the way through it. -/
def crossed : List BaseProperty :=
  [⟨"a", some (.int 5)⟩, ⟨"a.b", some (.list [])⟩, ⟨"x.y", some .null⟩, ⟨"a.b", some (.int 1)⟩]

theorem crossed_keys :
    ∀ b ∈ crossed, b.default.isSome ∧
      ∃ ks ∈ [["a"], ["a", "b"], ["x", "y"]], Path.plainKeys b.path = .ok ks := by
  have one : Path.plainKeys "a" = .ok ["a"] := by with_unfolding_all rfl
  have two : Path.plainKeys "a.b" = .ok ["a", "b"] := by with_unfolding_all rfl
  have three : Path.plainKeys "x.y" = .ok ["x", "y"] := by with_unfolding_all rfl
  simp [crossed, one, two, three]

theorem crossed_usable : ∀ b ∈ crossed, b.Usable := fun b inside =>
  ⟨(crossed_keys b inside).1, (crossed_keys b inside).2.imp fun _ keys => keys.2⟩

theorem populateWith_settles_crossed :
    (∀ b ∈ crossed, b.Usable) ∧
    ∃ rs out, rules crossed = .ok rs ∧
      (populateWith [(.str "x", .int 3), (.str "t", .null)] rs).result = .ok out ∧
      populateWith out rs = ⟨[], .ok out⟩ ∧
      Path.has (.map out) "a.b" = .ok true ∧
      [.str "x", .str "t"] <+: Entries.keys out := by
  obtain ⟨rs, out, made, filled, again, there, keys⟩ :=
    populateWith_settles crossed_usable [(.str "x", .int 3), (.str "t", .null)]
  obtain ⟨fs, same, front⟩ := keys [] _ rfl
  obtain rfl := Value.map.inj (Option.some.inj same)
  exact ⟨crossed_usable, rs, out, made, filled, again,
    there ⟨"a.b", some (.int 1)⟩ (by simp [crossed]), front⟩

/-- A value stays where it is, unless the path of a default leads on from there: then there is
a mapping in the end, whatever was there. -/
theorem populateWith_leaves (usable : ∀ b ∈ declared, b.Usable) (data : Entries) {q : String}
    (reads : Path.plainKeys q = .ok ls) {v : Value}
    (there : Path.find (.map data) q = .ok (some v)) :
    ∃ rs out, rules declared = .ok rs ∧ (populateWith data rs).result = .ok out ∧
      ((∀ b ∈ declared, ¬Path.Below b.path q) → Path.get (.map out) q = .ok (some v)) ∧
      ((∃ b ∈ declared, Path.Below b.path q) →
        ∃ es, Path.get (.map out) q = .ok (some (.map es))) := by
  obtain ⟨rs, out, made, _, filled, _, held⟩ := populateWith_usable usable data
  have found : descend ls (.map data) = some v ∧ v ≠ .missing false := by
    rw [Path.find, Path.get_of_plainKeys reads] at there
    exact Value.present_eq_some.mp (Except.ok.inj there)
  refine ⟨rs, out, made, filled, fun beside => ?_, ?_⟩
  · rw [Path.get_of_plainKeys reads]
    refine congrArg Except.ok (populateWith_kept (fun es => descend ls (.map es) = some v)
      (fun r inside es fs changed kept done => ?_) found.1 filled)
    obtain ⟨b, inside, same⟩ := rules_paths made r inside
    exact fill_keeps reads r (same ▸ beside b inside) kept found.2 done
  · rintro ⟨b, inside, below⟩
    obtain ⟨ks, keys⟩ := (usable b inside).placed
    obtain ⟨k, rest, rfl⟩ := (Path.below_iff keys reads).mp below
    obtain ⟨w, end', _⟩ := Path.held_iff.mp ((Path.has_iff keys out).mp (held b inside))
    obtain ⟨es, way⟩ := Path.map_of_descend_append end'
    exact ⟨es, by rw [Path.get_of_plainKeys reads, way]⟩

theorem populateWith_leaves_crossed :
    (∀ b ∈ crossed, b.Usable) ∧
    Path.find (.map [(.str "x", .int 3), (.str "t", .null)]) "t" = .ok (some .null) ∧
    Path.find (.map [(.str "x", .int 3), (.str "t", .null)]) "x" = .ok (some (.int 3)) ∧
    ∃ rs out, rules crossed = .ok rs ∧
      (populateWith [(.str "x", .int 3), (.str "t", .null)] rs).result = .ok out ∧
      Path.get (.map out) "t" = .ok (some .null) ∧
      ∃ es, Path.get (.map out) "x" = .ok (some (.map es)) := by
  have name : Path.plainKeys "t" = .ok ["t"] := by with_unfolding_all rfl
  have way : Path.plainKeys "x" = .ok ["x"] := by with_unfolding_all rfl
  have beyond : Path.plainKeys "x.y" = .ok ["x", "y"] := by with_unfolding_all rfl
  have null : Path.find (.map [(.str "x", .int 3), (.str "t", .null)]) "t" = .ok (some .null) := by
    with_unfolding_all rfl
  have three : Path.find (.map [(.str "x", .int 3), (.str "t", .null)]) "x" =
      .ok (some (.int 3)) := by
    with_unfolding_all rfl
  obtain ⟨rs, out, made, filled, kept, _⟩ := populateWith_leaves crossed_usable _ name null
  obtain ⟨rs', out', made', filled', _, displaced⟩ :=
    populateWith_leaves crossed_usable _ way three
  obtain rfl := Except.ok.inj (made.symm.trans made')
  obtain rfl := Except.ok.inj (filled.symm.trans filled')
  refine ⟨crossed_usable, null, three, rs, out, made, filled, kept fun b inside below => ?_,
    displaced ⟨⟨"x.y", some .null⟩, by simp [crossed],
      (Path.below_iff beyond way).mpr ⟨"y", [], rfl⟩⟩⟩
  obtain ⟨_, ks, among, keys⟩ := crossed_keys b inside
  obtain ⟨k, rest, rfl⟩ := (Path.below_iff keys name).mp below
  simp at among

/-- A number on the way to a default is lost to it. -/
theorem populateWith_displaces :
    BaseProperty.Usable ⟨"a.b", some (.int 1)⟩ ∧
    Path.find (.map [(.str "a", .int 5)]) "a" = .ok (some (.int 5)) ∧
    ∃ rs out, rules [⟨"a.b", some (.int 1)⟩] = .ok rs ∧
      (populateWith [(.str "a", .int 5)] rs).result = .ok out ∧
      Path.get (.map out) "a" = .ok (some (.record [("b", .int 1)])) := by
  have keys : Path.plainKeys "a.b" = .ok ["a", "b"] := by with_unfolding_all rfl
  exact ⟨⟨rfl, _, keys⟩, by with_unfolding_all rfl, [⟨"a.b", .int 1⟩], _, rfl,
    by with_unfolding_all rfl, by with_unfolding_all rfl⟩

end Defaults
end Quire
