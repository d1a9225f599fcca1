import Quire.Proofs.Bounds
import Quire.Proofs.Command.Building
import Quire.Proofs.Profile
import Quire.Proofs.Serialization

/-! A plan against the build that it is made for. Both list the files by the same patterns
from no root, and the build leaves the bounds to their number and the strategy to the
options and the profile, as the plan does. -/

namespace Quire

namespace Pipeline

variable {s : Session} {schema : Schema} {rules : Option RuleSet} {b : Bounds}
  {strategy : Strategy} {files : List String}

end Pipeline

/-! ### What a plan says -/

theorem StrategyProfile.ofPreset_whole {v : Value} {p : StrategyProfile}
    (found : ofPreset v = .ok p) : ∃ least workers, p = ⟨.int least, .int workers⟩ := by
  obtain ⟨key, _, found⟩ := bind_eq_ok.mp found
  split at found
  · obtain rfl := Except.ok.inj found
    exact ⟨_, _, rfl⟩
  · cases found

namespace Command

open Pipeline

/-- What is planned for a build. -/
def BuildOptions.toPlan (o : BuildOptions) : PlanOptions :=
  ⟨o.patterns, o.parallel, o.workers, o.profile⟩

variable {s : Surroundings} {c : Console} {o : BuildOptions} {config : Config}

/-- The options that are planned with are those of the settings. -/
def BuildOptions.processing (o : BuildOptions) : ProcessingConfig :=
  { parallel := .bool o.parallel, workers := optionalWhole o.workers }

theorem truthy_str (text : String) : (Value.str text).truthy = true ↔ text ≠ "" := by
  simp [Value.truthy]

/-- The profile that is planned with is the one that the checked settings have. -/
theorem planProfile_checked (valid : o.settings.validate = (config, .ok ())) :
    ∃ least workers, planProfile o.toPlan = .ok ⟨.int least, .int workers⟩ ∧
      config.profile = .fields ⟨.int least, .int workers⟩ := by
  obtain ⟨moded, profiled, mode, profile, _, format⟩ := Config.validate_eq_ok.mp valid
  obtain ⟨_, m, _, rfl⟩ := Config.withMode_eq_ok.mp mode
  obtain ⟨output, name, _, _, rfl⟩ := Config.withFormat_eq_ok format
  have named (text : String) (given : o.profile = some text) (present : text ≠ "") :
      o.settings.profileName = .str text := by
    unfold BuildOptions.settings
    rw [given]
    exact if_pos ((truthy_str text).mpr present)
  have unnamed (absent : o.profile = none ∨ o.profile = some "") :
      o.settings.profileName = .null := by
    unfold BuildOptions.settings
    rcases absent with none' | empty
    · rw [none']
      rfl
    · rw [empty]
      rfl
  rcases Config.withProfile_eq_ok.mp profile with ⟨falsy, rfl⟩ | ⟨truthy, p, found, rfl⟩
  · refine ⟨2, 4, ?_, rfl⟩
    change o.settings.profileName.truthy = false at falsy
    unfold planProfile BuildOptions.toPlan
    dsimp only
    split
    · next text given =>
      split
      · rfl
      · next present =>
        rw [named text given present, ← Bool.not_eq_true, truthy_str] at falsy
        exact absurd present falsy
    · rfl
  · obtain ⟨least, workers, rfl⟩ := StrategyProfile.ofPreset_whole found
    refine ⟨least, workers, ?_, rfl⟩
    change o.settings.profileName.truthy = true at truthy
    change StrategyProfile.ofPreset o.settings.profileName = _ at found
    unfold planProfile BuildOptions.toPlan
    dsimp only
    split
    · next text given =>
      split
      · next empty =>
        rw [unnamed (.inr (empty ▸ given))] at truthy
        cases truthy
      · next present => rwa [named text given present] at found
    · next absent =>
      rw [unnamed (.inl absent)] at truthy
      cases truthy

/-- How the files are looked for that a plan is made for. -/
def BuildOptions.search (o : BuildOptions) (c : Console) : Attempt (List String) :=
  FileLister.attempt {} c.tree (.list (o.patterns.map .str))

section Build

variable (valid : o.settings.validate = (config, .ok ()))
include valid

theorem found_build : found ((o.session s c).checked config) =
    (Schema.attempt c.tree (FileName.ofString o.schema)).result :=
  found_settled (s := o.session s c) (Config.validate_kept valid)

theorem listed_build : listed ((o.session s c).checked config) = (o.search c).result :=
  listed_settled (s := o.session s c) (Config.validate_kept valid)

end Build

end Command
end Quire
