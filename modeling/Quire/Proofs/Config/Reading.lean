import Quire.Config.Reading
import Quire.Proofs.Named

/-! Settings from a mapping. A setting that does not fit is refused, at every depth. A number
that is too large for its kind is not taken for such a setting, and it is all that is not. -/

namespace Quire

/-- The value below a value, key by key. -/
def Value.below? : Value → List String → Option Value
  | v, [] => some v
  | .map es, key :: keys => (Entries.field? es key).bind fun v => v.below? keys
  | _, _ :: _ => none

/-- An infinity, or a whole number that floating point has no room for. -/
def Value.IsBoundless (v : Value) : Prop :=
  (∃ negative, v = .real (.infinite negative)) ∨
    ∃ n, v = .int n ∧ (Number.whole n).toReal? = none

/-- An overflow over what stands in one of some places. -/
def Overflow (v : Value) (places : List (List String)) (m : Mishap) : Prop :=
  m.kind = .overflow ∧ ∃ place ∈ places, ∃ w, v.below? place = some w ∧ w.IsBoundless

/-- An outcome that is had, or refused as settings are, or goes wrong for some cause. -/
def Ends {α : Type} (cause : Mishap → Prop) (x : Outcome α) : Prop :=
  ∀ e, x = .error e → (∃ f, e = .fault f ∧ f.kind = .configuration) ∨ ∃ m, e = .mishap m ∧ cause m

namespace Ends

variable {α β : Type} {cause cause' : Mishap → Prop}

theorem ok (a : α) : Ends cause (.ok a : Outcome α) := nofun

theorem refused {f : Fault} (kind : f.kind = .configuration) :
    Ends cause (.error (.fault f) : Outcome α) :=
  fun _ same => .inl ⟨f, (Except.error.inj same).symm, kind⟩

theorem mono (more : ∀ m, cause m → cause' m) {x : Outcome α} (ends : Ends cause x) :
    Ends cause' x :=
  fun e failed => (ends e failed).imp_right fun ⟨m, same, why⟩ => ⟨m, same, more m why⟩

theorem bind {x : Outcome α} {f : α → Outcome β} (first : Ends cause x)
    (next : ∀ a, x = .ok a → Ends cause (f a)) : Ends cause (x >>= f) := by
  intro e failed
  rcases bind_eq_error.mp failed with here | ⟨a, came, later⟩
  · exact first e here
  · exact next a came e later

end Ends

/-- A group of settings is there, unless a mapping has null in its place. -/
def Section.StandsFor {α : Type} (s : Section α) (es : Entries) (name : String) : Prop :=
  (∃ a, s = .fields a) ∨ s = .other .null ∧ Entries.field? es name = some .null

namespace Coercion

/-- A mishap that says that a setting does not fit. -/
def Misfit (m : Mishap) : Prop := m.kind = .badKind ∨ m.kind.isValue = true

theorem misfit_badValue (text : String) : Misfit (.badValue text) := .inr rfl

theorem misfit_mapError {α : Type} {x : Except String α} {m : Mishap}
    (failed : x.mapError Mishap.badValue = .error m) : Misfit m := by
  cases x with
  | error text =>
    obtain rfl := Except.error.inj failed
    exact misfit_badValue text
  | ok a => cases failed

theorem wholeNumber_error {v : Value} {m : Mishap} (failed : wholeNumber v = .error m) :
    Misfit m ∨ m.kind = .overflow ∧ v.IsBoundless := by
  unfold wholeNumber at failed
  split at failed
  · exact .inl (misfit_mapError failed)
  · exact .inl (misfit_mapError failed)
  · cases failed
  · cases failed
  · next x =>
    cases x with
    | nan mark =>
      cases failed
      exact .inl (misfit_badValue _)
    | infinite negative =>
      cases failed
      exact .inr ⟨rfl, .inl ⟨negative, rfl⟩⟩
    | finite negative units =>
      cases negative <;> cases failed
  · cases failed
    exact .inl (.inl rfl)

theorem whole_error {v : Value} {m : Mishap} (failed : whole v = .error m) :
    Misfit m ∨ m.kind = .overflow ∧ v.IsBoundless :=
  wholeNumber_error (map_eq_error.mp failed)

theorem orOverflow_error {x : Option Binary64} {m : Mishap} (failed : orOverflow x = .error m) :
    x = none ∧ m.kind = .overflow := by
  cases x with
  | some x => cases failed
  | none =>
    obtain rfl := Except.error.inj failed
    exact ⟨rfl, rfl⟩

theorem real_int (n : Int) : real (.int n) = orOverflow (Number.toReal? (.whole n)) := rfl

theorem real_error {v : Value} {m : Mishap} (failed : real v = .error m) :
    Misfit m ∨ m.kind = .overflow ∧ v.IsBoundless := by
  cases v with
  | str s => exact .inl (misfit_mapError (map_eq_error.mp failed))
  | bytes b => exact .inl (misfit_mapError (map_eq_error.mp failed))
  | bool b => cases failed
  | real x => cases failed
  | int n =>
    rw [real_int] at failed
    obtain ⟨none', kind⟩ := orOverflow_error failed
    exact .inr ⟨kind, .inr ⟨n, rfl, none'⟩⟩
  | _ =>
    obtain rfl := Except.error.inj failed
    exact .inl (.inl rfl)

theorem flag_ok (v : Value) : ∃ w, flag v = .ok w := by
  cases v <;> exact ⟨_, rfl⟩

theorem text_error {v : Value} {m : Mishap} (failed : text v = .error m) : Misfit m := by
  unfold text at failed
  split at failed
  · cases failed
  · cases failed
    exact misfit_badValue _

theorem members_error {v : Value} {m : Mishap} (failed : v.members = .error m) : Misfit m := by
  unfold Value.members at failed
  split at failed
  all_goals cases failed
  exact .inl rfl

theorem textList_error (items : List Value) {m : Mishap}
    (failed : (items.mapM (unlessNull text) >>= fun found => pure (Value.list found)) = .error m) :
    Misfit m := by
  rcases bind_eq_error.mp failed with here | ⟨_, _, done⟩
  · obtain ⟨x, _, failed⟩ := mapM_error here
    unfold unlessNull at failed
    split at failed
    · cases failed
    · exact text_error failed
  · cases done

theorem texts_error {v : Value} {m : Mishap} (failed : texts v = .error m) : Misfit m := by
  unfold texts at failed
  dsimp only at failed
  split at failed
  · next s => exact textList_error [.str s] failed
  · rcases bind_eq_error.mp failed with here | ⟨items, _, failed⟩
    · exact members_error here
    · exact textList_error items failed

section Fields

variable {α : Type} {table name : String} {es : Entries}

/-- A field ends as what stands there does, but that misfits are refused. -/
theorem field_ends {cause : Mishap → Prop} {convert : Value → Outcome α} {default null : α}
    (each : ∀ v, Entries.field? es name = some v →
      Ends (fun m => Misfit m ∨ cause m) (convert v)) :
    Ends cause (field table es name default null convert) := by
  unfold field
  split
  · exact .ok _
  · exact .ok _
  · next v _ there =>
    split
    · exact .ok _
    · next e failed =>
      intro e' same
      obtain rfl := Except.error.inj same
      unfold misfit
      rcases each v there e failed with ⟨f, rfl, kind⟩ | ⟨m, rfl, misfit | why⟩
      · rw [if_pos (by simp [isMisfit, kind])]
        exact .inl ⟨_, rfl, rfl⟩
      · rw [if_pos (by simpa [isMisfit, Misfit] using misfit)]
        exact .inl ⟨_, rfl, rfl⟩
      · split
        · exact .inl ⟨_, rfl, rfl⟩
        · exact .inr ⟨m, rfl, why⟩

theorem value_ends {cause : Mishap → Prop} {default : Value} {convert : Value → Except Mishap Value}
    (each : ∀ v m, Entries.field? es name = some v → convert v = .error m → Misfit m ∨ cause m) :
    Ends cause (value table es name default convert) := by
  refine field_ends fun v there e failed => ?_
  obtain ⟨m, wrong, rfl⟩ := lift_eq_error.mp failed
  exact .inr ⟨m, rfl, each v m there wrong⟩

/-- What can only misfit ends well, or refused. -/
theorem value_fits {cause : Mishap → Prop} {default : Value} {convert : Value → Except Mishap Value}
    (each : ∀ v m, convert v = .error m → Misfit m) :
    Ends cause (value table es name default convert) :=
  value_ends fun v m _ failed => .inl (each v m failed)

theorem flag_fits (v : Value) (m : Mishap) (failed : flag v = .error m) : Misfit m := by
  obtain ⟨w, came⟩ := flag_ok v
  rw [came] at failed
  cases failed

theorem below?_field {v : Value} (there : Entries.field? es name = some v) :
    (Value.map es).below? [name] = some v := by
  simp only [Value.below?, there, Option.bind_some]

/-- A number can be beyond all bounds. -/
theorem number_ends {default : Value} {convert : Value → Except Mishap Value}
    (each : ∀ v m, convert v = .error m → Misfit m ∨ m.kind = .overflow ∧ v.IsBoundless)
    {places : List (List String)} (inside : [name] ∈ places) :
    Ends (Overflow (.map es) places) (value table es name default convert) :=
  value_ends fun v m there failed => (each v m failed).imp_right fun ⟨kind, beyond⟩ =>
    ⟨kind, [name], inside, v, below?_field there, beyond⟩

theorem inner_ends {default : Section α} {convert : Value → Outcome α}
    {places : List (List String)} (each : ∀ v, Ends (Overflow v places) (convert v)) :
    Ends (Overflow (.map es) (places.map (name :: ·))) (inner table es name default convert) := by
  refine field_ends fun v there => Ends.bind ?_ fun a _ => .ok _
  refine (each v).mono fun m ⟨kind, place, inside, w, found, beyond⟩ => .inr ?_
  refine ⟨kind, name :: place, List.mem_map_of_mem inside, w, ?_, beyond⟩
  simp only [Value.below?, there, Option.bind_some, found]

theorem inner_eq_ok {default : α} {convert : Value → Outcome α} {s : Section α}
    (came : inner table es name (.fields default) convert = .ok s) : s.StandsFor es name := by
  unfold inner field at came
  split at came
  · exact .inl ⟨default, (Except.ok.inj came).symm⟩
  · next null => exact .inr ⟨(Except.ok.inj came).symm, null⟩
  · split at came
    · next made =>
      obtain ⟨a, _, same⟩ := bind_eq_ok.mp made
      obtain rfl := Except.ok.inj came
      exact .inl ⟨a, (Except.ok.inj same).symm⟩
    · cases came

/-- Settings in a table, or in what stands for an empty one. -/
theorem entriesOf_ends {places : List (List String)} {v : Value} {convert : Entries → Outcome α}
    (each : ∀ es, Ends (Overflow (.map es) places) (convert es)) :
    Ends (Overflow v places) (entriesOf table v >>= convert) := by
  cases v with
  | map es => exact each es
  | null =>
    refine (each []).mono fun m ⟨kind, place, inside, w, found, beyond⟩ =>
      ⟨kind, place, inside, w, ?_, beyond⟩
    cases place with
    | nil =>
      obtain rfl := Option.some.inj found
      rcases beyond with ⟨_, same⟩ | ⟨_, same, _⟩ <;> cases same
    | cons key keys => cases found
  | _ => exact Ends.bind (.refused rfl) fun a came => nomatch came

end Fields

end Coercion

open Coercion

/-! ### The groups of settings -/

theorem root_ends {cause : Mishap → Prop} (v : Value) :
    Ends (fun m => Misfit m ∨ cause m)
      (do return .path (← (FileName.ofValue v : Except Mishap _)) : Outcome RootSetting) := by
  refine Ends.bind (fun e failed => ?_) fun _ _ => .ok _
  obtain ⟨m, wrong, rfl⟩ := lift_eq_error.mp failed
  refine .inr ⟨m, rfl, .inl ?_⟩
  unfold FileName.ofValue at wrong
  split at wrong
  · cases wrong
  · cases wrong
    exact .inl rfl
  · cases wrong
    exact .inl rfl

theorem SourceConfig.ofValue_ends (v : Value) : Ends (Overflow v []) (ofValue v) := by
  refine entriesOf_ends fun es => ?_
  refine Ends.bind (value_fits fun _ _ => texts_error) fun _ _ => ?_
  refine Ends.bind (field_ends fun v _ => root_ends v) fun _ _ => ?_
  refine Ends.bind (value_fits fun _ _ => text_error) fun _ _ => ?_
  exact Ends.bind (value_fits flag_fits) fun _ _ => .ok _

theorem AdaptiveConfig.ofValue_ends (v : Value) :
    Ends (Overflow v (fieldNames.map ([·]))) (ofValue v) := by
  refine entriesOf_ends fun es => ?_
  refine Ends.bind (number_ends (fun _ _ => whole_error) (by decide)) fun _ _ => ?_
  exact Ends.bind (number_ends (fun _ _ => whole_error) (by decide)) fun _ _ => .ok _

theorem StrategyProfile.ofValue_ends (v : Value) :
    Ends (Overflow v (fieldNames.map ([·]))) (ofValue v) := by
  refine entriesOf_ends fun es => ?_
  refine Ends.bind (number_ends (fun _ _ => whole_error) (by decide)) fun _ _ => ?_
  exact Ends.bind (number_ends (fun _ _ => whole_error) (by decide)) fun _ _ => .ok _

/-- The numbers among the options of processing. -/
def ProcessingConfig.numbers : List (List String) :=
  ["max_workers"] :: AdaptiveConfig.fieldNames.map (["adaptive", ·])

theorem ProcessingConfig.ofValue_ends (v : Value) : Ends (Overflow v numbers) (ofValue v) := by
  refine entriesOf_ends fun es => ?_
  refine Ends.bind (value_fits flag_fits) fun _ _ => ?_
  refine Ends.bind (number_ends (fun _ _ => whole_error) (by decide)) fun _ _ => ?_
  refine Ends.bind ((inner_ends AdaptiveConfig.ofValue_ends).mono ?_) fun _ _ => .ok _
  exact fun m ⟨kind, place, inside, rest⟩ =>
    ⟨kind, place, List.mem_cons_of_mem _ (by simpa using inside), rest⟩

/-- The limits among the settings of bounds. -/
def BoundsConfig.numbers : List (List String) :=
  [["memory_limit_mb"], ["file_limit"], ["time_limit_s"]]

theorem BoundsConfig.ofValue_ends (v : Value) : Ends (Overflow v numbers) (ofValue v) := by
  refine entriesOf_ends fun es => ?_
  refine Ends.bind (number_ends (fun _ _ => real_error) (by decide)) fun _ _ => ?_
  refine Ends.bind (number_ends (fun _ _ => whole_error) (by decide)) fun _ _ => ?_
  refine Ends.bind (number_ends (fun _ _ => real_error) (by decide)) fun _ _ => ?_
  exact Ends.bind (value_fits flag_fits) fun _ _ => .ok _

theorem OutputConfig.ofValue_ends (v : Value) : Ends (Overflow v []) (ofValue v) := by
  refine entriesOf_ends fun es => ?_
  refine Ends.bind (value_fits fun _ _ => text_error) fun _ _ => ?_
  refine Ends.bind (value_fits fun _ _ => text_error) fun _ _ => ?_
  exact Ends.bind (value_fits fun _ _ => text_error) fun _ _ => .ok _

theorem LoggingConfig.ofValue_ends (v : Value) : Ends (Overflow v []) (ofValue v) := by
  refine entriesOf_ends fun es => ?_
  refine Ends.bind (value_fits fun _ _ failed => nomatch failed) fun _ _ => ?_
  refine Ends.bind (value_fits flag_fits) fun _ _ => ?_
  refine Ends.bind (value_fits fun _ _ => text_error) fun _ _ => ?_
  exact Ends.bind (value_fits fun _ _ => text_error) fun _ _ => .ok _

namespace Config

/-- All the numbers among the settings, by where they stand. -/
def numbers : List (List String) :=
  ProcessingConfig.numbers.map ("processing" :: ·) ++
    (StrategyProfile.fieldNames.map (["profile", ·]) ++ BoundsConfig.numbers.map ("bounds" :: ·))

/-- Names that are texts are known, or refused. -/
theorem checkNames_ends {cause : Mishap → Prop} {label : String} {allowed : List String}
    {es : Entries} (named : es.Named) : Ends cause (checkNames label allowed (.map es)) := by
  unfold checkNames
  split
  · exact .ok _
  · dsimp only
    split
    · exact .ok _
    · rw [if_pos]
      · exact .refused rfl
      · refine List.all_eq_true.mpr fun k inside => ?_
        obtain ⟨name, rfl⟩ := named k ((List.mem_filter.mp inside).1)
        rfl

theorem section_ends {α : Type} {es : Entries} {name : String} {default : Section α}
    {convert : Value → Outcome α} {places : List (List String)}
    (each : ∀ v, Ends (Overflow v places) (convert v))
    (few : ∀ place ∈ places, name :: place ∈ numbers) :
    Ends (Overflow (.map es) numbers) (inner table es name default convert) := by
  refine (inner_ends each).mono fun m ⟨kind, place, inside, rest⟩ => ⟨kind, place, ?_, rest⟩
  obtain ⟨below, known, rfl⟩ := List.mem_map.mp inside
  exact few below known

/-- Settings in a mapping under texts are read, or refused, unless a number is too large. -/
theorem ofValue_ends {es : Entries} (named : es.Named) :
    Ends (Overflow (.map es) numbers) (ofValue (.map es)) := by
  refine Ends.bind (checkNames_ends named) fun _ _ => ?_
  refine entriesOf_ends fun es => ?_
  refine Ends.bind (value_fits fun _ _ => text_error) fun _ _ => ?_
  refine Ends.bind (value_fits fun _ _ => text_error) fun _ _ => ?_
  refine Ends.bind (value_fits fun _ _ => text_error) fun _ _ => ?_
  refine Ends.bind (section_ends SourceConfig.ofValue_ends nofun) fun _ _ => ?_
  refine Ends.bind (section_ends ProcessingConfig.ofValue_ends (by decide)) fun _ _ => ?_
  refine Ends.bind (section_ends StrategyProfile.ofValue_ends (by decide)) fun _ _ => ?_
  refine Ends.bind (section_ends BoundsConfig.ofValue_ends (by decide)) fun _ _ => ?_
  refine Ends.bind (section_ends OutputConfig.ofValue_ends nofun) fun _ _ => ?_
  exact Ends.bind (section_ends LoggingConfig.ofValue_ends nofun) fun _ _ => .ok _

/-- Every group of settings is one, unless there is null in its place. -/
structure Grouped (c : Config) (es : Entries) : Prop where
  sources : c.sources.StandsFor es "sources"
  processing : c.processing.StandsFor es "processing"
  profile : c.profile.StandsFor es "profile"
  bounds : c.bounds.StandsFor es "bounds"
  output : c.output.StandsFor es "output"
  logging : c.logging.StandsFor es "logging"

theorem ofValue_grouped {es : Entries} {c : Config} (came : ofValue (.map es) = .ok c) :
    c.Grouped es := by
  obtain ⟨_, _, came⟩ := bind_eq_ok.mp came
  obtain ⟨es', same, came⟩ := bind_eq_ok.mp came
  obtain rfl := Except.ok.inj same
  obtain ⟨schemaPath, _, came⟩ := bind_eq_ok.mp came
  obtain ⟨mode, _, came⟩ := bind_eq_ok.mp came
  obtain ⟨profileName, _, came⟩ := bind_eq_ok.mp came
  obtain ⟨sources, one, came⟩ := bind_eq_ok.mp came
  obtain ⟨processing, two, came⟩ := bind_eq_ok.mp came
  obtain ⟨profile, three, came⟩ := bind_eq_ok.mp came
  obtain ⟨bounds, four, came⟩ := bind_eq_ok.mp came
  obtain ⟨output, five, came⟩ := bind_eq_ok.mp came
  obtain ⟨logging, six, came⟩ := bind_eq_ok.mp came
  obtain rfl := Except.ok.inj came
  exact ⟨inner_eq_ok one, inner_eq_ok two, inner_eq_ok three, inner_eq_ok four, inner_eq_ok five,
    inner_eq_ok six⟩

end Config
end Quire
