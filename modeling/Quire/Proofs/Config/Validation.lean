import Quire.Config.Checking
import Quire.Proofs.Batches
import Quire.Proofs.Bounds
import Quire.Proofs.Config.Declared

/-! Settings that were checked. Checking them again finds nothing to change, and nothing that
is built from them later fails for what they say: there is a way to go through any number of
files, they can be put into batches, and there are bounds. -/

namespace Quire

namespace Value

variable {v : Value} {m : Int}

theorem compareInt_whole (counts : v.number? = some (.whole m)) (test : Number → Number → Bool)
    (n : Int) : v.compareInt test n = .ok (test (.whole m) (.whole n)) := by
  simp only [compareInt, counts]

theorem isBelow_whole (counts : v.number? = some (.whole m)) (n : Int) :
    v.isBelow n = .ok (decide (m < n)) := by
  rw [isBelow, compareInt_whole counts, Number.less_whole]

theorem isBetween_whole (counts : v.number? = some (.whole m)) (lo hi : Int) :
    v.isBetween lo hi = .ok (decide (lo ≤ m ∧ m ≤ hi)) := by
  rw [isBetween, isAtLeast, compareInt_whole counts, Number.lessEq_whole]
  cases above : decide (lo ≤ m) with
  | false =>
    have none' : ¬(lo ≤ m ∧ m ≤ hi) := fun both => by simp [both.1] at above
    rw [decide_eq_false none']
    rfl
  | true =>
    have same : (lo ≤ m ∧ m ≤ hi) ↔ m ≤ hi := and_iff_right (of_decide_eq_true above)
    change v.isAtMost hi = _
    rw [isAtMost, compareInt_whole counts, Number.lessEq_whole, decide_eq_decide.mpr same]

theorem Staffs.truthy (staffs : v.Staffs) : v.truthy = true := by
  obtain ⟨n, counts, positive⟩ := staffs
  cases v with
  | int n =>
    cases counts
    simp only [Value.truthy, bne_iff_ne, ne_eq]
    omega
  | bool b =>
    cases b with
    | true => rfl
    | false =>
      cases counts
      exact absurd positive (by decide)
  | _ => cases counts

end Value

theorem refuseIf_eq_ok {test : Except Mishap Bool} {message : String} :
    refuseIf test message = .ok () ↔ test = .ok false := by
  rcases test with m | _ | _
  · exact ⟨nofun, nofun⟩
  · exact ⟨fun _ => rfl, fun _ => rfl⟩
  · exact ⟨nofun, nofun⟩

theorem Section.given_null {α : Type} (name : String) :
    (Section.other .null : Section α).given name = .ok none := rfl

theorem Section.given_fields {α : Type} (a : α) (name : String) :
    (Section.fields a).given name = .ok (some a) := rfl

theorem Section.get_eq_ok {α : Type} {s : Section α} {a : α} {name : String} :
    s.get name = .ok a ↔ s = .fields a := by
  cases s with
  | fields b => exact ⟨fun h => congrArg fields (Except.ok.inj h), fun h => by cases h; rfl⟩
  | other v => exact ⟨nofun, nofun⟩

/-! ### What checks make sure of -/

/-- A limit on either side that is kept to. -/
theorem Value.between_of_ok {v : Value} {m lo hi : Int} (counts : v.number? = some (.whole m))
    {inside : Bool} (looked : (liftM (v.isBetween lo hi) : Outcome Bool) = .ok inside) :
    inside = decide (lo ≤ m ∧ m ≤ hi) :=
  Except.ok.inj ((lift_eq_ok.mp looked).symm.trans (isBetween_whole counts lo hi))

theorem Value.staffs_of_refuseIf {v : Value} (whole : v.IsWhole) {message : String}
    (held : refuseIf (v.isBelow 1) message = .ok ()) : v.Staffs := by
  obtain ⟨n, counts⟩ := whole
  have least := refuseIf_eq_ok.mp held
  rw [isBelow_whole counts] at least
  have least := of_decide_eq_false (Except.ok.inj least)
  exact ⟨n, counts, by omega⟩

theorem StrategyProfile.check_staffs {p : StrategyProfile} (typed : p.Typed)
    (held : p.check = .ok ()) : p.minFiles.Staffs ∧ p.workers.Staffs := by
  obtain ⟨m, files⟩ := typed.minFiles
  obtain ⟨n, workers⟩ := typed.workers
  obtain ⟨inside, looked, held⟩ := bind_eq_ok.mp held
  obtain rfl := Value.between_of_ok files looked
  dsimp only at held
  split at held
  · cases held
  · next least =>
    obtain ⟨inside', looked, held⟩ := bind_eq_ok.mp held
    obtain rfl := Value.between_of_ok workers looked
    split at held
    · cases held
    · next least' =>
      simp only [Bool.not_eq_true', decide_eq_false_iff_not, not_not] at least least'
      exact ⟨⟨m, files, least.1⟩, n, workers, least'.1⟩

namespace AdaptiveConfig

/-- A number that is not below zero. -/
theorem check_staffs {a : AdaptiveConfig} (typed : a.Typed) (held : a.check = .ok ()) :
    a.workers.Staffs ∧ ∃ t, a.threshold.number? = some (.whole t) ∧ 0 ≤ t := by
  obtain ⟨t, counts⟩ := typed.threshold
  obtain ⟨_, staffed, least⟩ := bind_eq_ok.mp held
  have least := refuseIf_eq_ok.mp least
  rw [Value.isBelow_whole counts] at least
  have least := of_decide_eq_false (Except.ok.inj least)
  exact ⟨Value.staffs_of_refuseIf typed.workers staffed, t, counts, by omega⟩

end AdaptiveConfig

namespace ProcessingConfig

/-- The policy that options bring along is checked with them. -/
theorem check_policy {p : ProcessingConfig} (held : p.check = .ok ()) {a : AdaptiveConfig}
    (there : p.adaptive = .fields a) : a.check = .ok () := by
  simp only [check, there] at held
  split at held
  · obtain ⟨_, _, held⟩ := bind_eq_ok.mp held
    exact held
  · exact held

theorem check_workers {p : ProcessingConfig} (whole : p.workers.IsWhole)
    (held : p.check = .ok ()) : p.workers.Staffs := by
  have set : p.workers.isNull = false := by
    obtain ⟨n, counts⟩ := whole
    cases given : p.workers with
    | null =>
      rw [given] at counts
      cases counts
    | _ => rfl
  simp only [check, set] at held
  obtain ⟨_, staffed, _⟩ := bind_eq_ok.mp held
  exact Value.staffs_of_refuseIf whole staffed

/-- Options that were checked ask for a worker at least, and for parallel work only where
there is a file. -/
theorem check_staffed {p : ProcessingConfig} (typed : p.Typed) (held : p.check = .ok ())
    {profile : StrategyProfile} (files : profile.minFiles.Staffs)
    (workers : profile.workers.Staffs) : p.Staffed profile := by
  obtain ⟨least, counts, _⟩ := files
  unfold Staffed
  rcases typed.adaptive with none' | ⟨a, there, fits⟩
  · rw [none']
    refine ⟨rfl, ?_, by rw [counts]; rfl⟩
    rcases typed.workers with null | whole
    · rw [null]
      exact workers
    · have staffs := check_workers whole held
      rw [Value.orElse, if_pos staffs.truthy]
      exact staffs
  · rw [there]
    obtain ⟨staffs, t, counts, _⟩ := AdaptiveConfig.check_staffs fits (check_policy held there)
    exact ⟨staffs, by rw [counts]; rfl⟩

end ProcessingConfig

namespace Strategy

theorem against_whole {limit : Value} {m : Int} (counts : limit.number? = some (.whole m))
    (n : Int) (test : Number → Number → Bool) :
    against (.int n) limit test = .ok (test (.whole m) (.whole n)) := by
  simp only [against, counts]
  rfl

/-- There is parallel work only where there is a file. -/
theorem choose_parallel {p : ProcessingConfig} (typed : p.Typed) (held : p.check = .ok ())
    {profile : StrategyProfile} (files : profile.minFiles.Staffs) {n : Nat} {s : Strategy}
    (chosen : choose (.int n) (some p) none profile = .ok s) (parallel : s.parallel = true) :
    1 ≤ n := by
  rcases typed.adaptive with none' | ⟨a, there, fits⟩
  · obtain ⟨least, counts, positive⟩ := files
    simp only [choose, policy, none', Section.given_null, ofRequest, isAtLeast,
      against_whole counts, Number.lessEq_whole] at chosen
    cases asked : isRequested (some p) with
    | false =>
      rw [asked] at chosen
      obtain rfl := Except.ok.inj chosen
      cases parallel
    | true =>
      rw [asked] at chosen
      obtain rfl := Except.ok.inj chosen
      have reached := of_decide_eq_true parallel
      omega
  · obtain ⟨_, t, counts, positive⟩ := AdaptiveConfig.check_staffs fits
      (ProcessingConfig.check_policy held there)
    simp only [choose, policy, there, Section.given_fields] at chosen
    obtain ⟨above, compared, made⟩ := bind_eq_ok.mp (show ofAdaptive _ a = .ok s from chosen)
    obtain rfl := Except.ok.inj made
    rw [isAbove, against_whole counts, Number.less_whole] at compared
    have beyond := of_decide_eq_true ((Except.ok.inj compared).trans parallel)
    omega

end Strategy

namespace BoundsConfig

theorem checkOne_limit {name : String} {v : Value} (typed : v.OrNull Value.IsAmount)
    (held : checkOne name v = .ok ()) : v = .null ∨ v.IsLimit := by
  rcases typed with null | ⟨n, rfl⟩
  · exact .inl null
  · have set : (Value.ofNumber n).isNull = false := by
      cases n <;> rfl
    have number : (Value.ofNumber n).number? = some n := by
      cases n <;> rfl
    simp only [checkOne, set] at held
    have least := refuseIf_eq_ok.mp held
    simp only [Value.isAtMost, Value.compareInt, number] at least
    exact .inr ⟨n, rfl, Except.ok.inj least⟩

theorem check_limits {b : BoundsConfig} (typed : b.Typed) (held : b.check = .ok ()) :
    (b.memory = .null ∨ b.memory.IsLimit) ∧ (b.files = .null ∨ b.files.IsLimit) ∧
      (b.time = .null ∨ b.time.IsLimit) := by
  obtain ⟨_, memory, held⟩ := bind_eq_ok.mp held
  obtain ⟨_, files, time⟩ := bind_eq_ok.mp held
  have amount : b.files.OrNull Value.IsAmount :=
    typed.files.imp_right fun ⟨n, same⟩ => ⟨.whole n, same⟩
  exact ⟨checkOne_limit typed.memory memory, checkOne_limit amount files,
    checkOne_limit typed.time time⟩

end BoundsConfig

/-! ### Checking again -/

/-- Text that is in the one form already is not put into another. -/
theorem loweredText_of_settled {s : String} (settled : Text.lower (Text.strip s) = s)
    (given : s ≠ "") (d : Value) : loweredText ((Value.str s).orElse d) = .ok s := by
  have some' : (Value.str s).truthy = true := by
    simpa [Value.truthy] using given
  rw [Value.orElse, if_pos some']
  exact congrArg Except.ok settled

theorem Mode.ofValue_name (m : Mode) : ofValue (.str m.name) = .ok m := by
  have settled : Text.lower (Text.strip m.name) = m.name := by
    cases m <;> decide +kernel
  have plain : hyphenated m.name = m.name := by
    cases m <;> decide +kernel
  have given : m.name ≠ "" := by
    cases m <;> decide
  refine bind_eq_ok.mpr ⟨m.name, lift_eq_ok.mpr (loweredText_of_settled settled given _), ?_⟩
  rw [plain, ofName?_name]
  rfl

/-- Presets are profiles like others. -/
theorem StrategyProfile.ofPreset_typed {name : Value} {p : StrategyProfile}
    (found : ofPreset name = .ok p) : p.Typed := by
  obtain ⟨key, _, found⟩ := bind_eq_ok.mp found
  split at found
  · next files workers _ =>
    obtain rfl := Except.ok.inj found
    exact ⟨⟨files, rfl⟩, workers, rfl⟩
  · cases found

namespace Config

variable {c c' : Config}

theorem validate_eq_ok : c.validate = (c', .ok ()) ↔ ∃ moded profiled,
    c.withMode = .ok moded ∧ moded.withProfile = .ok profiled ∧ profiled.checkLimits = .ok () ∧
    profiled.withFormat = .ok c' := by
  unfold validate
  constructor
  · intro held
    split at held
    · cases held
    · next moded mode =>
      split at held
      · cases held
      · next profiled profile =>
        split at held
        · cases held
        · next limits =>
          split at held
          · cases held
          · next done format =>
            cases held
            exact ⟨moded, profiled, mode, profile, limits, format⟩
  · rintro ⟨moded, profiled, mode, profile, limits, format⟩
    simp only [mode, profile, limits, format]

theorem withMode_eq_ok : c.withMode = .ok c' ↔ c.schemaPath.truthy = true ∧
    ∃ m, Mode.ofValue c.mode = .ok m ∧ c' = { c with mode := .str m.name } := by
  unfold withMode
  cases c.schemaPath.truthy with
  | false => exact ⟨nofun, nofun⟩
  | true =>
    constructor
    · intro held
      obtain ⟨m, named, made⟩ := bind_eq_ok.mp (show (Mode.ofValue c.mode >>= _) = _ from held)
      exact ⟨rfl, m, named, (Except.ok.inj made).symm⟩
    · rintro ⟨_, m, named, rfl⟩
      exact bind_eq_ok.mpr ⟨m, named, rfl⟩

theorem withProfile_eq_ok : c.withProfile = .ok c' ↔ (c.profileName.truthy = false ∧ c' = c) ∨
    (c.profileName.truthy = true ∧ ∃ p, StrategyProfile.ofPreset c.profileName = .ok p ∧
      c' = { c with profile := .fields p }) := by
  unfold withProfile
  cases c.profileName.truthy with
  | false =>
    constructor
    · exact fun held => .inl ⟨rfl, (Except.ok.inj held).symm⟩
    · rintro (⟨_, rfl⟩ | ⟨none', _⟩)
      · rfl
      · cases none'
  | true =>
    constructor
    · intro held
      obtain ⟨p, named, made⟩ := bind_eq_ok.mp
        (show (StrategyProfile.ofPreset c.profileName >>= _) = _ from held)
      exact .inr ⟨rfl, p, named, (Except.ok.inj made).symm⟩
    · rintro (⟨none', _⟩ | ⟨_, p, named, rfl⟩)
      · cases none'
      · exact bind_eq_ok.mpr ⟨p, named, rfl⟩

theorem outputFormat_eq_ok {v : Value} {format : String} (told : outputFormat v = .ok format) :
    format = "json" ∨ format = "yaml" := by
  obtain ⟨given, _, told⟩ := bind_eq_ok.mp told
  dsimp only at told
  generalize (if given = "yml" then "yaml" else given) = chosen at told
  split at told
  · next known =>
    obtain rfl := Except.ok.inj told
    simpa using known
  · cases told

/-- The formats are their own one form. -/
theorem outputFormat_settled {v : Value} {format : String} (told : outputFormat v = .ok format) :
    outputFormat (.str format) = .ok format := by
  unfold outputFormat
  rcases outputFormat_eq_ok told with rfl | rfl
  · rw [loweredText_of_settled (by decide +kernel) (by decide)]
    rfl
  · rw [loweredText_of_settled (by decide +kernel) (by decide)]
    rfl

theorem withFormat_eq_ok (held : c.withFormat = .ok c') :
    ∃ (output : OutputConfig) (format : String), c.output = .fields output ∧
      outputFormat (.str format) = .ok format ∧
    c' = { c with output := .fields { output with format := .str format } } := by
  obtain ⟨output, there, held⟩ := bind_eq_ok.mp held
  obtain ⟨format, told, made⟩ := bind_eq_ok.mp held
  exact ⟨output, format, Section.get_eq_ok.mp (lift_eq_ok.mp there), outputFormat_settled told,
    (Except.ok.inj made).symm⟩

/-! What is in its one form stays as it is. -/

theorem withMode_settled (path : c.schemaPath.truthy = true) {m : Mode}
    (mode : c.mode = .str m.name) : c.withMode = .ok c := by
  obtain ⟨schemaPath, given, profileName, sources, processing, profile, bounds, output,
    logging⟩ := c
  obtain rfl : given = .str m.name := mode
  exact withMode_eq_ok.mpr ⟨path, m, Mode.ofValue_name m, rfl⟩

theorem withProfile_settled (profile : c.profileName.truthy = true → ∃ p,
    StrategyProfile.ofPreset c.profileName = .ok p ∧ c.profile = .fields p) :
    c.withProfile = .ok c := by
  obtain ⟨schemaPath, mode, profileName, sources, processing, given, bounds, output, logging⟩ := c
  cases named : profileName.truthy with
  | false => exact withProfile_eq_ok.mpr (.inl ⟨named, rfl⟩)
  | true =>
    obtain ⟨p, found, there⟩ := profile named
    obtain rfl : given = .fields p := there
    exact withProfile_eq_ok.mpr (.inr ⟨named, p, found, rfl⟩)

theorem withFormat_settled {output : OutputConfig} {format : String}
    (told : outputFormat (.str format) = .ok format)
    (there : c.output = .fields { output with format := .str format }) :
    c.withFormat = .ok c := by
  obtain ⟨schemaPath, mode, profileName, sources, processing, profile, bounds, given, logging⟩ := c
  obtain rfl : given = _ := there
  exact bind_eq_ok.mpr ⟨_, rfl, bind_eq_ok.mpr ⟨format, told, rfl⟩⟩

theorem checkLimits_parts {options : ProcessingConfig} {profile : StrategyProfile}
    {limits : BoundsConfig} (there : c.profile = .fields profile)
    (processing : c.processing = .fields options) (bounds : c.bounds = .fields limits)
    (held : c.checkLimits = .ok ()) :
    profile.check = .ok () ∧ options.check = .ok () ∧ limits.check = .ok () := by
  simp only [checkLimits, there, processing, bounds] at held
  change (profile.check >>= fun _ => options.check >>= fun _ => limits.check) = .ok () at held
  obtain ⟨_, one, held⟩ := bind_eq_ok.mp held
  obtain ⟨_, two, three⟩ := bind_eq_ok.mp held
  exact ⟨one, two, three⟩

theorem validate_limits (held : c.validate = (c', .ok ())) : c'.checkLimits = .ok () := by
  obtain ⟨moded, profiled, _, _, limits, format⟩ := validate_eq_ok.mp held
  obtain ⟨output, name, _, _, rfl⟩ := withFormat_eq_ok format
  exact limits

/-- Settings that hold are in their one form once they were checked. -/
theorem validate_again (held : c.validate = (c', .ok ())) : c'.validate = (c', .ok ()) := by
  obtain ⟨moded, profiled, mode, profile, _, format⟩ := validate_eq_ok.mp held
  obtain ⟨path, m, _, rfl⟩ := withMode_eq_ok.mp mode
  obtain ⟨output, name, _, told, done⟩ := withFormat_eq_ok format
  have settled : c'.withMode = .ok c' ∧ c'.withProfile = .ok c' := by
    rw [done]
    rcases withProfile_eq_ok.mp profile with ⟨none', rfl⟩ | ⟨_, p, found, rfl⟩
    · exact ⟨withMode_settled path rfl,
        withProfile_settled fun named => nomatch none'.symm.trans named⟩
    · exact ⟨withMode_settled path rfl, withProfile_settled fun _ => ⟨p, found, rfl⟩⟩
  exact validate_eq_ok.mpr ⟨c', c', settled.1, settled.2, validate_limits held,
    withFormat_settled told (by rw [done])⟩

theorem withMode_typed (typed : c.Typed) (held : c.withMode = .ok c') : c'.Typed := by
  obtain ⟨_, m, _, rfl⟩ := withMode_eq_ok.mp held
  exact { typed with mode := ⟨m.name, rfl⟩ }

theorem withProfile_typed (typed : c.Typed) (held : c.withProfile = .ok c') : c'.Typed := by
  rcases withProfile_eq_ok.mp held with ⟨_, rfl⟩ | ⟨_, p, found, rfl⟩
  · exact typed
  · exact { typed with profile := ⟨p, rfl, StrategyProfile.ofPreset_typed found⟩ }

theorem withFormat_typed (typed : c.Typed) (held : c.withFormat = .ok c') : c'.Typed := by
  obtain ⟨output, format, there, _, rfl⟩ := withFormat_eq_ok held
  obtain ⟨output', there', fits⟩ := typed.output
  obtain rfl := Section.fields.inj (there.symm.trans there')
  exact { typed with output := ⟨_, rfl, { fits with format := ⟨format, rfl⟩ }⟩ }

/-- Checking leaves settings of the kinds they are declared with. -/
theorem validate_typed (typed : c.Typed) (held : c.validate = (c', .ok ())) : c'.Typed := by
  obtain ⟨moded, profiled, mode, profile, _, format⟩ := validate_eq_ok.mp held
  exact withFormat_typed (withProfile_typed (withMode_typed typed mode) profile) format

/-- Settings that were checked are in order for good: checking them again changes nothing, and
for any number of files they give a strategy with a worker at least, by which the files can be
put into batches, one for a worker at most, that end without a mishap of their own; and bounds,
which keep to the limits that are set unless there are to be none. -/
theorem validate_serves (typed : c.Typed) (held : c.validate = (c', .ok ())) :
    c'.validate = (c', .ok ()) ∧
    ∃ options profile limits, c'.processing = .fields options ∧ c'.profile = .fields profile ∧
      c'.bounds = .fields limits ∧ ∀ n : Nat,
      (∃ s workers, (Strategy.attempt (.int n) (some options) none profile).result = .ok s ∧
        s.workers.number? = some (.whole workers) ∧ 1 ≤ workers ∧ (s.parallel = true → 1 ≤ n) ∧
        ∀ files : List String, files.length = n →
          (∃ batches, Execution.partitionFor files s.workers = .ok batches ∧
            (batches.length : Int) ≤ workers) ∧
          ∀ {σ α : Type} {order : Pool.Finishing} {w : Watch σ} {work : String → Attempt α}
            {state : σ} {e : Failure},
            (Execution.parallel order w work files s.workers state).outcome = .error e →
            (∃ f, e = .fault f ∧ Execution.Told work files f) ∨ ∃ k t, (w.check k t).1 = .error e) ∧
      ∃ b, Bounds.resolve (.whole n) (some limits) = .ok b ∧
        (limits.unbounded.truthy = true → b = .unbounded) ∧
        (limits.unbounded.truthy = false → b.Keeps limits) := by
  have again := validate_again held
  have typed := validate_typed typed held
  have checked := validate_limits held
  obtain ⟨options, processing, fits⟩ := typed.processing
  obtain ⟨profile, there, fits'⟩ := typed.profile
  obtain ⟨limits, bounds, fits''⟩ := typed.bounds
  obtain ⟨one, two, three⟩ := checkLimits_parts there processing bounds checked
  obtain ⟨files, workers⟩ := StrategyProfile.check_staffs fits' one
  have staffed := ProcessingConfig.check_staffed fits two files workers
  obtain ⟨memory, count, time⟩ := BoundsConfig.check_limits fits'' three
  refine ⟨again, options, profile, limits, processing, there, bounds, fun n => ⟨?_,
    Bounds.resolve_limits n memory count time⟩⟩
  obtain ⟨s, chosen, staffs⟩ := Strategy.choose_staffed staffed n
  obtain ⟨w, counts, positive⟩ := staffs
  refine ⟨s, w, ?_, counts, positive, Strategy.choose_parallel fits two files chosen,
    fun names _ => ⟨?_, fun failed => Execution.parallel_error ⟨w, counts, positive⟩ failed⟩⟩
  · simp only [Strategy.attempt, chosen]
    rfl
  · obtain ⟨size, cut⟩ := Execution.partitionFor_whole counts positive names
    exact ⟨_, cut, Execution.length_partitionFor_le counts cut⟩

/-- Settings that are not in their one form: two other names and a preset. -/
def asked : Config where
  schemaPath := .str "schema.json"
  mode := .str " Standard"
  profileName := .str "aggressive"
  processing := .fields { parallel := .bool true }
  bounds := .fields { memory := .int 300 }
  output := .fields { format := .str "YML" }

def inForm : Config :=
  { asked with
    mode := .str "full"
    profile := .fields ⟨.int 1, .int 8⟩
    output := .fields { format := .str "yaml" } }

theorem asked_typed : asked.Typed where
  schemaPath := .inr ⟨_, rfl⟩
  mode := ⟨_, rfl⟩
  profileName := .inr ⟨_, rfl⟩
  sources := ⟨_, rfl, ⟨[], rfl⟩, .inl rfl, ⟨_, rfl⟩, _, rfl⟩
  processing := ⟨_, rfl, ⟨_, rfl⟩, .inl rfl, .inl rfl⟩
  profile := ⟨_, rfl, ⟨_, rfl⟩, _, rfl⟩
  bounds := ⟨_, rfl, .inr ⟨.whole 300, rfl⟩, .inl rfl, .inl rfl, _, rfl⟩
  output := ⟨_, rfl, .inl rfl, .inl rfl, _, rfl⟩
  logging := ⟨_, rfl, .inl ⟨_, rfl⟩, ⟨_, rfl⟩, .inr ⟨_, rfl⟩, _, rfl⟩

theorem asked_validate : asked.validate = (inForm, .ok ()) := by
  with_unfolding_all rfl

theorem validate_serves_asked :
    asked.Typed ∧ asked.validate = (inForm, .ok ()) ∧ inForm.validate = (inForm, .ok ()) ∧
    (∃ s, (Strategy.attempt (.int 3) (some { parallel := .bool true }) none
        ⟨.int 1, .int 8⟩).result = .ok s ∧ s.workers.Staffs ∧
      ∃ batches, Execution.partitionFor ["a.md", "b.md", "c.md"] s.workers = .ok batches) ∧
    ∃ b, Bounds.resolve (.whole 3) (some { memory := .int 300 }) = .ok b ∧
      b.Keeps { memory := .int 300 } := by
  obtain ⟨again, options, profile, limits, processing, there, bounds, serves⟩ :=
    validate_serves asked_typed asked_validate
  obtain rfl := Section.fields.inj processing
  obtain rfl := Section.fields.inj there
  obtain rfl := Section.fields.inj bounds
  obtain ⟨⟨s, workers, chosen, counts, positive, _, cuts⟩, b, resolved, _, kept⟩ := serves 3
  obtain ⟨batches, cut, _⟩ := (cuts ["a.md", "b.md", "c.md"] rfl).1
  exact ⟨asked_typed, asked_validate, again,
    ⟨s, chosen, ⟨workers, counts, positive⟩, batches, cut⟩, b, resolved, kept rfl⟩

end Config
end Quire
