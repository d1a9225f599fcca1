import Quire.Proofs.Config.Validation

/-! What checking does to settings, whether they hold or not. What was put in order stays in
order, so that a second check ends as the first did; and of two modes each puts its own name
into settings that are the same otherwise. -/

namespace Quire.Config

variable {c c' moded profiled : Config}

/-- The mode and the profile are in order once they were put in order. -/
theorem settled_profiled (mode : c.withMode = .ok moded)
    (profile : moded.withProfile = .ok profiled) :
    profiled.withMode = .ok profiled ∧ profiled.withProfile = .ok profiled := by
  obtain ⟨path, m, _, rfl⟩ := withMode_eq_ok.mp mode
  rcases withProfile_eq_ok.mp profile with ⟨none', rfl⟩ | ⟨_, p, found, rfl⟩
  · exact ⟨withMode_settled path rfl,
      withProfile_settled fun named => nomatch none'.symm.trans named⟩
  · exact ⟨withMode_settled path rfl, withProfile_settled fun _ => ⟨p, found, rfl⟩⟩

/-- Settings that do not hold fail again for the same reason. -/
theorem validate_fails {e : Failure} (failed : c.validate = (c', .error e)) :
    c'.validate = (c', .error e) := by
  unfold validate at failed
  split at failed
  · next wrong =>
    cases failed
    simp only [validate, wrong]
  · next moded mode =>
    split at failed
    · next wrong =>
      obtain ⟨path, m, _, there⟩ := withMode_eq_ok.mp mode
      have again : moded.withMode = .ok moded := by
        rw [there]
        exact withMode_settled path rfl
      cases failed
      simp only [validate, again, wrong]
    · next profiled profile =>
      obtain ⟨again, again'⟩ := settled_profiled mode profile
      split at failed
      · next wrong =>
        cases failed
        simp only [validate, again, again', wrong]
      · next limits =>
        split at failed
        · next wrong =>
          cases failed
          simp only [validate, again, again', limits, wrong]
        · cases failed

/-- A second check finds the settings as the first one left them. -/
theorem validate_settled (c : Config) : c.validate.1.validate = c.validate := by
  rcases checked : c.validate with ⟨c', e | ⟨⟩⟩
  · exact validate_fails checked
  · exact validate_again checked

/-- The groups that checking leaves alone. -/
structure Kept (c c' : Config) : Prop where
  schemaPath : c'.schemaPath = c.schemaPath
  sources : c'.sources = c.sources
  processing : c'.processing = c.processing
  bounds : c'.bounds = c.bounds

theorem kept_profiled (mode : c.withMode = .ok moded) (profile : moded.withProfile = .ok profiled) :
    Kept c profiled := by
  obtain ⟨_, m, _, rfl⟩ := withMode_eq_ok.mp mode
  rcases withProfile_eq_ok.mp profile with ⟨_, rfl⟩ | ⟨_, p, _, rfl⟩ <;> exact ⟨rfl, rfl, rfl, rfl⟩

theorem validate_kept (held : c.validate = (c', .ok ())) : Kept c c' := by
  obtain ⟨moded, profiled, mode, profile, _, format⟩ := validate_eq_ok.mp held
  obtain ⟨output, name, _, _, rfl⟩ := withFormat_eq_ok format
  have kept := kept_profiled mode profile
  exact ⟨kept.schemaPath, kept.sources, kept.processing, kept.bounds⟩

/-- Of the output checking only puts the format in order. -/
theorem validate_output (held : c.validate = (c', .ok ())) : ∃ output name,
    c.output = .fields output ∧ c'.output = .fields { output with format := .str name } := by
  obtain ⟨moded, profiled, mode, profile, _, format⟩ := validate_eq_ok.mp held
  obtain ⟨output, name, there, _, rfl⟩ := withFormat_eq_ok format
  obtain ⟨_, m, _, rfl⟩ := withMode_eq_ok.mp mode
  rcases withProfile_eq_ok.mp profile with ⟨_, rfl⟩ | ⟨_, p, _, rfl⟩ <;>
    exact ⟨output, name, there, rfl⟩

/-- Settings that hold have the groups that a run goes by. -/
theorem validate_groups (held : c.validate = (c', .ok ())) :
    (∃ profile, c'.profile = .fields profile) ∧ (∃ options, c.processing = .fields options) ∧
      (∃ limits, c.bounds = .fields limits) ∧ ∃ output, c'.output = .fields output := by
  have kept := validate_kept held
  obtain ⟨profile, there, rest⟩ := bind_eq_ok.mp (validate_limits held)
  obtain ⟨_, _, rest⟩ := bind_eq_ok.mp rest
  obtain ⟨options, processing, rest⟩ := bind_eq_ok.mp rest
  obtain ⟨_, _, rest⟩ := bind_eq_ok.mp rest
  obtain ⟨limits, bounds, _⟩ := bind_eq_ok.mp rest
  obtain ⟨output, name, _, settled⟩ := validate_output held
  refine ⟨⟨profile, Section.get_eq_ok.mp (lift_eq_ok.mp there)⟩, ⟨options, ?_⟩, ⟨limits, ?_⟩,
    _, settled⟩
  · rw [← kept.processing]
    exact Section.get_eq_ok.mp (lift_eq_ok.mp processing)
  · rw [← kept.bounds]
    exact Section.get_eq_ok.mp (lift_eq_ok.mp bounds)

/-! ### Settings in two modes -/

def inMode (c : Config) (v : Value) : Config := { c with mode := v }

theorem withProfile_inMode (c : Config) (v : Value) :
    (c.inMode v).withProfile = c.withProfile.map (·.inMode v) := by
  unfold withProfile inMode
  dsimp only
  split
  · cases StrategyProfile.ofPreset c.profileName <;> rfl
  · rfl

theorem withFormat_inMode (c : Config) (v : Value) :
    (c.inMode v).withFormat = c.withFormat.map (·.inMode v) := by
  unfold withFormat inMode
  dsimp only
  cases c.output.get "format" with
  | error e => rfl
  | ok output =>
    change (outputFormat output.format >>= _) = Except.map _ (outputFormat output.format >>= _)
    cases outputFormat output.format <;> rfl

theorem withMode_inMode {c : Config} (path : c.schemaPath.truthy = true) {v : Value} {m : Mode}
    (told : Mode.ofValue v = .ok m) : (c.inMode v).withMode = .ok (c.inMode (.str m.name)) :=
  withMode_eq_ok.mpr ⟨path, m, told, rfl⟩

/-- Settings that differ in their modes alone hold or fail together, and if they hold they differ
in the names of their modes alone. -/
theorem validate_modes (c : Config) : (∃ e, ∀ v m, Mode.ofValue v = .ok m →
      ∃ c', (c.inMode v).validate = (c', .error e)) ∨
    ∃ c' : Config, ∀ v m, Mode.ofValue v = .ok m →
      (c.inMode v).validate = (c'.inMode (.str m.name), .ok ()) := by
  cases path : c.schemaPath.truthy with
  | false =>
    refine .inl ⟨.fault (.configuration "schema_path is required." none),
      fun v m _ => ⟨c.inMode v, ?_⟩⟩
    have failed : (c.inMode v).withMode =
        .error (.fault (.configuration "schema_path is required." none)) := by
      unfold withMode
      rw [show (c.inMode v).schemaPath = c.schemaPath from rfl, path]
      rfl
    simp only [validate, failed]
  | true =>
    cases profile : c.withProfile with
    | error e =>
      refine .inl ⟨e, fun v m told => ⟨c.inMode (.str m.name), ?_⟩⟩
      simp only [validate, withMode_inMode path told, withProfile_inMode, profile, Except.map]
    | ok profiled =>
      have limits (v : Value) : (profiled.inMode v).checkLimits = profiled.checkLimits := rfl
      cases checked : profiled.checkLimits with
      | error e =>
        refine .inl ⟨e, fun v m told => ⟨profiled.inMode (.str m.name), ?_⟩⟩
        simp only [validate, withMode_inMode path told, withProfile_inMode, profile, Except.map,
          limits, checked]
      | ok =>
        cases format : profiled.withFormat with
        | error e =>
          refine .inl ⟨e, fun v m told => ⟨profiled.inMode (.str m.name), ?_⟩⟩
          simp only [validate, withMode_inMode path told, withProfile_inMode, profile, Except.map,
            limits, checked, withFormat_inMode, format]
        | ok c' =>
          refine .inr ⟨c', fun v m told => ?_⟩
          simp only [validate, withMode_inMode path told, withProfile_inMode, profile, Except.map,
            limits, checked, withFormat_inMode, format]

end Quire.Config
