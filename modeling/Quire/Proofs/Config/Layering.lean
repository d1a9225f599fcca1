import Quire.Config.Layered
import Quire.Proofs.Config.Validation
import Quire.Proofs.Entries

/-! What arguments leave as it is of the settings that they are laid over. Each layer changes
the settings that its arguments decide, and no others. An argument that is left out decides
nothing, but for the mode and the output format: these come to their defaults, whatever the
settings below say. -/

namespace Quire

open Coercion

/-! ### Settings that are kept -/

namespace Section

variable {α : Type} {R S : α → α → Prop} {s t u : Section α}

/-- Groups whose fields stand in a relation; what stands in the place of a group is the same. -/
inductive Both (R : α → α → Prop) : Section α → Section α → Prop
  | fields {a b : α} : R a b → Both R (.fields a) (.fields b)
  | other (v : Value) : Both R (.other v) (.other v)

theorem Both.refl (refl : ∀ a, R a a) : ∀ s : Section α, Both R s s
  | .fields a => .fields (refl a)
  | .other v => .other v

theorem Both.trans (trans : ∀ a b c, R a b → R b c → R a c) (first : Both R s t)
    (second : Both R t u) : Both R s u := by
  cases first with
  | fields near =>
    cases second with
    | fields far => exact .fields (trans _ _ _ near far)
  | other v => exact second

theorem Both.mono (wider : ∀ a b, R a b → S a b) (both : Both R s t) : Both S s t := by
  cases both with
  | fields near => exact .fields (wider _ _ near)
  | other v => exact .other v

theorem Both.of_fields {b : α} (both : Both R s (.fields b)) : ∃ a, s = .fields a ∧ R a b := by
  cases both with
  | fields near => exact ⟨_, rfl, near⟩

theorem Both.fields_iff (both : Both R s t) :
    (∃ a, s = .fields a) ↔ ∃ b, t = .fields b := by
  cases both with
  | fields near => exact ⟨fun _ => ⟨_, rfl⟩, fun _ => ⟨_, rfl⟩⟩
  | other v => rfl

end Section

/-- All of the sources but the patterns is as below. -/
structure SourceConfig.SameElse (below s : SourceConfig) : Prop where
  root : s.root = below.root
  encoding : s.encoding = below.encoding
  requireBlock : s.requireBlock = below.requireBlock

/-- The processing is as below but for what is named. -/
structure ProcessingConfig.SameBut (named : String → Prop) (below p : ProcessingConfig) : Prop where
  parallel : ¬named "parallel" → p.parallel = below.parallel
  workers : ¬named "max_workers" → p.workers = below.workers
  adaptive : p.adaptive = below.adaptive

/-- The output is as below but for what is named. -/
structure OutputConfig.SameBut (named : String → Prop) (below o : OutputConfig) : Prop where
  path : ¬named "output_path" → o.path = below.path
  template : ¬named "template_path" → o.template = below.template
  format : ¬named "output_format" → o.format = below.format

/-- All settings but the schema and the patterns are as below, except for what is named. -/
structure Config.SameBut (named : String → Prop) (below c : Config) : Prop where
  mode : ¬named "mode" → c.mode = below.mode
  profileName : ¬named "profile_name" → c.profileName = below.profileName
  sources : Section.Both SourceConfig.SameElse below.sources c.sources
  processing : Section.Both (ProcessingConfig.SameBut named) below.processing c.processing
  output : Section.Both (OutputConfig.SameBut named) below.output c.output
  profile : c.profile = below.profile
  bounds : c.bounds = below.bounds
  logging : c.logging = below.logging

section SameBut

variable {named other : String → Prop}

theorem SourceConfig.SameElse.refl (s : SourceConfig) : SameElse s s := ⟨rfl, rfl, rfl⟩

theorem SourceConfig.SameElse.trans {r s t : SourceConfig} (first : SameElse r s)
    (second : SameElse s t) : SameElse r t :=
  ⟨second.root.trans first.root, second.encoding.trans first.encoding,
    second.requireBlock.trans first.requireBlock⟩

theorem ProcessingConfig.SameBut.refl (p : ProcessingConfig) : SameBut named p p :=
  ⟨fun _ => rfl, fun _ => rfl, rfl⟩

theorem ProcessingConfig.SameBut.trans {p q r : ProcessingConfig} (first : SameBut named p q)
    (second : SameBut named q r) : SameBut named p r :=
  ⟨fun free => (second.parallel free).trans (first.parallel free),
    fun free => (second.workers free).trans (first.workers free),
    second.adaptive.trans first.adaptive⟩

theorem ProcessingConfig.SameBut.mono (wider : ∀ name, named name → other name)
    {p q : ProcessingConfig} (kept : SameBut named p q) : SameBut other p q :=
  ⟨fun free => kept.parallel (mt (wider _) free), fun free => kept.workers (mt (wider _) free),
    kept.adaptive⟩

theorem OutputConfig.SameBut.refl (o : OutputConfig) : SameBut named o o :=
  ⟨fun _ => rfl, fun _ => rfl, fun _ => rfl⟩

theorem OutputConfig.SameBut.trans {o p q : OutputConfig} (first : SameBut named o p)
    (second : SameBut named p q) : SameBut named o q :=
  ⟨fun free => (second.path free).trans (first.path free),
    fun free => (second.template free).trans (first.template free),
    fun free => (second.format free).trans (first.format free)⟩

theorem OutputConfig.SameBut.mono (wider : ∀ name, named name → other name)
    {o p : OutputConfig} (kept : SameBut named o p) : SameBut other o p :=
  ⟨fun free => kept.path (mt (wider _) free), fun free => kept.template (mt (wider _) free),
    fun free => kept.format (mt (wider _) free)⟩

namespace Config.SameBut

variable {b c d : Config}

theorem refl (c : Config) : SameBut named c c where
  mode _ := rfl
  profileName _ := rfl
  sources := .refl SourceConfig.SameElse.refl c.sources
  processing := .refl ProcessingConfig.SameBut.refl c.processing
  output := .refl OutputConfig.SameBut.refl c.output
  profile := rfl
  bounds := rfl
  logging := rfl

theorem trans (first : SameBut named b c) (second : SameBut named c d) : SameBut named b d where
  mode free := (second.mode free).trans (first.mode free)
  profileName free := (second.profileName free).trans (first.profileName free)
  sources := first.sources.trans (fun _ _ _ => .trans) second.sources
  processing := first.processing.trans (fun _ _ _ => .trans) second.processing
  output := first.output.trans (fun _ _ _ => .trans) second.output
  profile := second.profile.trans first.profile
  bounds := second.bounds.trans first.bounds
  logging := second.logging.trans first.logging

theorem mono (wider : ∀ name, named name → other name) (kept : SameBut named b c) :
    SameBut other b c where
  mode free := kept.mode (mt (wider _) free)
  profileName free := kept.profileName (mt (wider _) free)
  sources := kept.sources
  processing := kept.processing.mono fun _ _ => .mono wider
  output := kept.output.mono fun _ _ => .mono wider
  profile := kept.profile
  bounds := kept.bounds
  logging := kept.logging

/-- Where all is the same but for what is named, the mode and the output format, it remains to
look at these two. -/
theorem iff_of_wider {output : OutputConfig}
    (kept : SameBut (fun name => named name ∨ name = "mode" ∨ name = "output_format") b c)
    (there : c.output = .fields output) :
    SameBut named b c ↔ (¬named "mode" → c.mode = b.mode) ∧ (¬named "output_format" →
      ∃ before, b.output = .fields before ∧ output.format = before.format) := by
  obtain ⟨before, below, near⟩ := (there ▸ kept.output).of_fields
  constructor
  · intro all
    refine ⟨all.mode, fun free => ?_⟩
    obtain ⟨before, below, near⟩ := (there ▸ all.output).of_fields
    exact ⟨before, below, near.format free⟩
  · rintro ⟨mode, format⟩
    have free {name : String} (mode : name ≠ "mode") (format : name ≠ "output_format")
        (free : ¬named name) : ¬(named name ∨ name = "mode" ∨ name = "output_format") := by
      simp [free, mode, format]
    have written : before.SameBut named output :=
      { path := near.path ∘ free (by decide) (by decide)
        template := near.template ∘ free (by decide) (by decide)
        format := fun absent => by
          obtain ⟨_, below', same⟩ := format absent
          obtain rfl := Section.fields.inj (below.symm.trans below')
          exact same }
    exact
      { kept with
        mode
        profileName := kept.profileName ∘ free (by decide) (by decide)
        processing := kept.processing.mono fun _ _ near =>
          { near with
            parallel := near.parallel ∘ free (by decide) (by decide)
            workers := near.workers ∘ free (by decide) (by decide) }
        output := below ▸ there ▸ .fields written }

end Config.SameBut

end SameBut

namespace BuildArguments

variable {a : BuildArguments} {c c' : Config}

/-! ### Layers -/

theorem onSources_eq_ok : a.onSources c = .ok c' ↔
    ∃ patterns, a.patterns.members = .ok patterns ∧ ∃ sources, c.sources = .fields sources ∧
      c' = { c with sources := .fields { sources with patterns := .list patterns } } := by
  simp only [onSources, bind_eq_ok, Section.get_eq_ok, pure_eq_ok]

theorem onOutput_eq_ok : a.onOutput c = .ok c' ↔ ∃ output, c.output = .fields output ∧
    c' = { c with
      output := .fields
        { path := textOr a.output output.path
          template := textOr a.template output.template
          format := a.format } } := by
  simp only [onOutput, bind_eq_ok, Section.get_eq_ok, pure_eq_ok]

theorem onParallel_eq_ok : a.onParallel c = .ok c' ↔
    a.parallel.truthy = false ∧ c' = c ∨
    a.parallel.truthy = true ∧ ∃ processing, c.processing = .fields processing ∧
      c' = { c with processing := .fields { processing with parallel := .bool true } } := by
  unfold onParallel
  cases a.parallel.truthy
  · simp only [Bool.not_false, if_true, pure_eq_ok, true_and, Bool.false_eq_true, false_and,
      or_false]
  · simp only [Bool.not_true, Bool.false_eq_true, if_false, bind_eq_ok, Section.get_eq_ok,
      pure_eq_ok, true_and, Bool.true_eq_false, false_and, false_or]

theorem onWorkers_eq_ok : a.onWorkers c = .ok c' ↔
    a.workers.isNull = true ∧ c' = c ∨
    a.workers.isNull = false ∧ ∃ workers, whole a.workers = .ok workers ∧
      ∃ processing, c.processing = .fields processing ∧
        c' = { c with processing := .fields { processing with workers } } := by
  unfold onWorkers
  cases a.workers.isNull
  · simp only [Bool.false_eq_true, if_false, bind_eq_ok, Section.get_eq_ok, pure_eq_ok, true_and,
      false_and, false_or]
  · simp only [if_true, pure_eq_ok, true_and, Bool.true_eq_false, false_and, or_false]

theorem laidOn_eq_ok {below : Config} : a.laidOn below = .ok c ↔
    ∃ c₁, a.onSources { below with schemaPath := a.schema.toText } = .ok c₁ ∧
    ∃ c₂, a.onOutput { c₁ with
        mode := a.mode
        profileName := if a.profile.truthy then a.profile else c₁.profileName } = .ok c₂ ∧
    ∃ c₃, a.onParallel c₂ = .ok c₃ ∧ a.onWorkers c₃ = .ok c := by
  simp only [laidOn, bind_eq_ok]

/-! ### What layers keep -/

/-- The settings that arguments decide, by the names of the arguments. -/
inductive Decides (a : BuildArguments) : String → Prop
  | mode : Decides a "mode"
  | format : Decides a "output_format"
  | profile (some : a.profile.truthy = true) : Decides a "profile_name"
  | output (some : a.output.isNull = false) : Decides a "output_path"
  | template (some : a.template.isNull = false) : Decides a "template_path"
  | parallel (some : a.parallel.truthy = true) : Decides a "parallel"
  | workers (some : a.workers.isNull = false) : Decides a "max_workers"

theorem onSources_keeps (laid : a.onSources c = .ok c') : c.SameBut a.Decides c' := by
  obtain ⟨_, _, sources, there, rfl⟩ := onSources_eq_ok.mp laid
  exact { Config.SameBut.refl c with sources := there ▸ .fields ⟨rfl, rfl, rfl⟩ }

theorem textOr_of_isNull {given : Value} (absent : given.isNull = true) (below : Value) :
    textOr given below = below := by
  rw [textOr, if_pos absent]

theorem onOutput_keeps (laid : a.onOutput c = .ok c') : c.SameBut a.Decides c' := by
  obtain ⟨output, there, rfl⟩ := onOutput_eq_ok.mp laid
  have kept : output.SameBut a.Decides
      ⟨textOr a.template output.template, textOr a.output output.path, a.format⟩ :=
    { path := fun free => textOr_of_isNull (by simpa using mt Decides.output free) output.path
      template := fun free =>
        textOr_of_isNull (by simpa using mt Decides.template free) output.template
      format := fun free => absurd .format free }
  exact { Config.SameBut.refl c with output := there ▸ .fields kept }

theorem onParallel_keeps (laid : a.onParallel c = .ok c') : c.SameBut a.Decides c' := by
  obtain ⟨_, rfl⟩ | ⟨some, processing, there, rfl⟩ := onParallel_eq_ok.mp laid
  · exact .refl _
  · have kept : processing.SameBut a.Decides { processing with parallel := .bool true } :=
      { ProcessingConfig.SameBut.refl processing with
        parallel := fun free => absurd (.parallel some) free }
    exact { Config.SameBut.refl c with processing := there ▸ .fields kept }

theorem onWorkers_keeps (laid : a.onWorkers c = .ok c') : c.SameBut a.Decides c' := by
  obtain ⟨_, rfl⟩ | ⟨some, workers, _, processing, there, rfl⟩ := onWorkers_eq_ok.mp laid
  · exact .refl _
  · have kept : processing.SameBut a.Decides { processing with workers } :=
      { ProcessingConfig.SameBut.refl processing with
        workers := fun free => absurd (.workers some) free }
    exact { Config.SameBut.refl c with processing := there ▸ .fields kept }

/-- Arguments leave all settings as they are that they do not decide. -/
theorem laidOn_keeps_undecided {below : Config} (laid : a.laidOn below = .ok c) :
    below.SameBut a.Decides c := by
  obtain ⟨c₁, sources, c₂, output, c₃, parallel, workers⟩ := laidOn_eq_ok.mp laid
  have schema : below.SameBut a.Decides { below with schemaPath := a.schema.toText } :=
    { Config.SameBut.refl below with }
  have named : c₁.SameBut a.Decides { c₁ with
      mode := a.mode
      profileName := if a.profile.truthy then a.profile else c₁.profileName } :=
    { Config.SameBut.refl c₁ with
      mode := fun free => absurd .mode free
      profileName := fun free => if_neg fun some => free (.profile some) }
  -- The mode and the profile come between the sources and the output.
  have before := schema.trans (onSources_keeps sources)
  have between := (before.trans named).trans (onOutput_keeps output)
  exact (between.trans (onParallel_keeps parallel)).trans (onWorkers_keeps workers)

theorem onParallel_mode_output (laid : a.onParallel c = .ok c') :
    c'.mode = c.mode ∧ c'.output = c.output := by
  obtain ⟨_, rfl⟩ | ⟨_, _, _, rfl⟩ := onParallel_eq_ok.mp laid <;> exact ⟨rfl, rfl⟩

theorem onWorkers_mode_output (laid : a.onWorkers c = .ok c') :
    c'.mode = c.mode ∧ c'.output = c.output := by
  obtain ⟨_, rfl⟩ | ⟨_, _, _, _, _, rfl⟩ := onWorkers_eq_ok.mp laid <;> exact ⟨rfl, rfl⟩

/-- The mode and the output format are those of the arguments. -/
theorem laidOn_mode_format {below : Config} (laid : a.laidOn below = .ok c) :
    c.mode = a.mode ∧ ∃ output, c.output = .fields output ∧ output.format = a.format := by
  obtain ⟨c₁, _, c₂, output, c₃, parallel, workers⟩ := laidOn_eq_ok.mp laid
  obtain ⟨mode, same⟩ := onParallel_mode_output parallel
  obtain ⟨mode', same'⟩ := onWorkers_mode_output workers
  obtain ⟨_, _, rfl⟩ := onOutput_eq_ok.mp output
  exact ⟨mode'.trans mode, _, same'.trans same, rfl⟩

/-! ### When settings can be laid over -/

/-- Settings that arguments can be laid over: the patterns can be listed, the workers are a whole
number, and there is each group that something is laid on. -/
structure Fits (a : BuildArguments) (below : Config) : Prop where
  patterns : ∃ patterns, a.patterns.members = .ok patterns
  workers : a.workers.isNull = false → ∃ n, whole a.workers = .ok n
  sources : ∃ sources, below.sources = .fields sources
  output : ∃ output, below.output = .fields output
  processing : a.parallel.truthy = true ∨ a.workers.isNull = false →
    ∃ processing, below.processing = .fields processing

theorem exists_onSources_iff : (∃ c', a.onSources c = .ok c') ↔
    (∃ patterns, a.patterns.members = .ok patterns) ∧ ∃ sources, c.sources = .fields sources := by
  simp [onSources_eq_ok]

theorem exists_onOutput_iff :
    (∃ c', a.onOutput c = .ok c') ↔ ∃ output, c.output = .fields output := by
  simp [onOutput_eq_ok]

theorem exists_onParallel_iff : (∃ c', a.onParallel c = .ok c') ↔
    (a.parallel.truthy = true → ∃ processing, c.processing = .fields processing) := by
  cases on : a.parallel.truthy <;> simp [onParallel_eq_ok, on]

theorem exists_onWorkers_iff : (∃ c', a.onWorkers c = .ok c') ↔
    (a.workers.isNull = false → (∃ n, whole a.workers = .ok n) ∧
      ∃ processing, c.processing = .fields processing) := by
  cases none : a.workers.isNull <;> simp [onWorkers_eq_ok, none]

theorem exists_laidOn_iff {below : Config} : (∃ c, a.laidOn below = .ok c) ↔ a.Fits below := by
  constructor
  · rintro ⟨c, laid⟩
    obtain ⟨c₁, sources, c₂, output, c₃, parallel, workers⟩ := laidOn_eq_ok.mp laid
    have kept₁ := onSources_keeps sources
    have kept₂ := onOutput_keeps output
    have kept₃ := onParallel_keeps parallel
    obtain ⟨listed, group⟩ := exists_onSources_iff.mp ⟨c₁, sources⟩
    have written := exists_onOutput_iff.mp ⟨c₂, output⟩
    have staffed := exists_onWorkers_iff.mp ⟨c, workers⟩
    -- No layer puts a group where there was none, so a group that is found was there below.
    have same := kept₁.processing.fields_iff.trans kept₂.processing.fields_iff
    refine ⟨listed, fun some => (staffed some).1, group, kept₁.output.fields_iff.mpr written, ?_⟩
    rintro (on | some)
    · exact same.mpr (exists_onParallel_iff.mp ⟨c₃, parallel⟩ on)
    · exact same.mpr (kept₃.processing.fields_iff.mpr (staffed some).2)
  · intro fits
    obtain ⟨c₁, sources⟩ := exists_onSources_iff (c := { below with schemaPath := a.schema.toText })
      |>.mpr ⟨fits.patterns, fits.sources⟩
    have kept₁ := onSources_keeps sources
    obtain ⟨c₂, output⟩ := exists_onOutput_iff (c := { c₁ with
        mode := a.mode
        profileName := if a.profile.truthy then a.profile else c₁.profileName })
      |>.mpr (kept₁.output.fields_iff.mp fits.output)
    have kept₂ := onOutput_keeps output
    have same := kept₁.processing.fields_iff.trans kept₂.processing.fields_iff
    obtain ⟨c₃, parallel⟩ := exists_onParallel_iff.mpr fun on =>
      same.mp (fits.processing (.inl on))
    have kept₃ := onParallel_keeps parallel
    obtain ⟨c, workers⟩ := exists_onWorkers_iff.mpr fun some => ⟨fits.workers some,
      kept₃.processing.fields_iff.mp (same.mp (fits.processing (.inr some)))⟩
    exact ⟨c, laidOn_eq_ok.mpr ⟨c₁, sources, c₂, output, c₃, parallel, workers⟩⟩

/-! ### Arguments by their names -/

section Given

variable {schema patterns : Value} {es : Entries}

theorem ofGiven_eq_ok (given : ofGiven schema patterns es = .ok a) : a =
    { schema, patterns
      output := (Entries.field? es "output_path").getD .null
      template := (Entries.field? es "template_path").getD .null
      format := (Entries.field? es "output_format").getD (.str "json")
      parallel := (Entries.field? es "parallel").getD (.bool false)
      workers := (Entries.field? es "max_workers").getD .null
      mode := (Entries.field? es "mode").getD (.str "full")
      profile := (Entries.field? es "profile_name").getD .null } := by
  obtain ⟨_, _, given⟩ := bind_eq_ok.mp given
  dsimp only at given
  split at given
  · cases given
  · exact (Except.ok.inj given).symm

/-- The names of the arguments that are given. -/
def Among (es : Entries) (name : String) : Prop := Entries.has es (.str name) = true

theorem getD_of_not_among {name : String} (absent : ¬Among es name) (default : Value) :
    (Entries.field? es name).getD default = default := by
  rw [Entries.field?, Entries.get?_eq_none.mpr (by simpa [Among] using absent), Option.getD_none]

/-- What is decided is given, but for the mode and the output format. -/
theorem given_of_decides (given : ofGiven schema patterns es = .ok a) {name : String}
    (decided : a.Decides name) : Among es name ∨ name = "mode" ∨ name = "output_format" := by
  obtain rfl := ofGiven_eq_ok given
  refine or_iff_not_imp_left.mpr fun absent => ?_
  cases decided with
  | mode => exact .inl rfl
  | format => exact .inr rfl
  | profile some | output some | template some | parallel some | workers some =>
    -- Each of these has a default which decides nothing.
    rw [getD_of_not_among absent] at some
    cases some

/-- Arguments are laid over settings that they fit, and over no others. They keep each setting that
none of them names, except for the mode and the output format; these are at their defaults where
they are not given. So nothing is changed but what is given just when the mode and the output
format are given, or have been at their defaults before. -/
theorem laidOn_keeps (given : ofGiven schema patterns es = .ok a) (below : Config) :
    ((∃ c, a.laidOn below = .ok c) ↔ a.Fits below) ∧
    ∀ c, a.laidOn below = .ok c →
      below.SameBut (fun name => Among es name ∨ name = "mode" ∨ name = "output_format") c ∧
      c.mode = (Entries.field? es "mode").getD (.str "full") ∧
      (∃ output, c.output = .fields output ∧
        output.format = (Entries.field? es "output_format").getD (.str "json")) ∧
      (below.SameBut (Among es) c ↔
        (Among es "mode" ∨ below.mode = .str "full") ∧
        (Among es "output_format" ∨
          ∃ output, below.output = .fields output ∧ output.format = .str "json")) := by
  refine ⟨exists_laidOn_iff, fun c laid => ?_⟩
  have kept := (laidOn_keeps_undecided laid).mono fun _ => given_of_decides given
  obtain ⟨mode, output, there, format⟩ := laidOn_mode_format laid
  obtain rfl := ofGiven_eq_ok given
  refine ⟨kept, mode, ⟨output, there, format⟩, (kept.iff_of_wider there).trans (and_congr ?_ ?_)⟩
  · refine (or_iff_not_imp_left.trans (imp_congr_right fun absent => ?_)).symm
    rw [mode, getD_of_not_among absent, eq_comm]
  · refine (or_iff_not_imp_left.trans (imp_congr_right fun absent => ?_)).symm
    rw [format, getD_of_not_among absent]
    simp only [eq_comm]

end Given

/-- Settings under which few files are put into a page and nothing is validated. -/
def pageSettings : Config where
  mode := .str "template-only"
  processing := .fields { workers := .int 4 }
  output := .fields { template := .str "page.html", format := .str "yaml" }
  bounds := .fields { files := .int 10 }

def pageArguments : Entries :=
  [(.str "parallel", .bool true), (.str "mode", .str "template-only"),
   (.str "output_path", .str "page"), (.str "output_format", .str "yaml")]

theorem laidOn_keeps_pageSettings :
    ∃ a c, ofGiven (.str "s.json") (.list [.str "*.md"]) pageArguments = .ok a ∧
      a.Fits pageSettings ∧ a.laidOn pageSettings = .ok c ∧
      pageSettings.SameBut (Among pageArguments) c ∧
      c.processing = .fields { parallel := .bool true, workers := .int 4 } ∧
      c.output = .fields
        { path := .str "page", template := .str "page.html", format := .str "yaml" } := by
  have given : ofGiven (.str "s.json") (.list [.str "*.md"]) pageArguments = .ok
      { schema := .str "s.json"
        patterns := .list [.str "*.md"]
        output := .str "page"
        format := .str "yaml"
        parallel := .bool true
        mode := .str "template-only" } := by with_unfolding_all rfl
  obtain ⟨fits, laid⟩ := laidOn_keeps given pageSettings
  obtain ⟨_, _, _, all⟩ := laid _ rfl
  refine ⟨_, _, given, fits.mp ⟨_, rfl⟩, rfl, all.mpr ⟨.inl ?_, .inl ?_⟩, rfl, rfl⟩
  all_goals with_unfolding_all rfl

/-- Where nothing is given, the mode and the output format are at their defaults all the same. -/
theorem laidOn_resets :
    ∃ a c, ofGiven (.str "s.json") (.list [.str "*.md"]) [] = .ok a ∧
      a.laidOn pageSettings = .ok c ∧ c.mode = .str "full" ∧
      (∃ output, c.output = .fields output ∧ output.format = .str "json") ∧
      ¬pageSettings.SameBut (Among []) c := by
  refine ⟨_, _, rfl, rfl, rfl, ⟨_, rfl, rfl⟩, fun kept => ?_⟩
  have mode : Value.str "full" = .str "template-only" := kept.mode nofun
  exact absurd (Value.str.inj mode) (by decide)

end BuildArguments

end Quire
