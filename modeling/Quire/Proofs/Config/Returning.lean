import Quire.Proofs.Config.Restoring
import Quire.Proofs.Files.Spelling

/-! Settings read again from their report. Settings of the kinds they are declared with come
back equal; only a truth value in the place of a number comes back as the number, and a whole
number in the place of a floating point one as that. Null comes back as null, but for the form of
a log entry, which comes back as the usual one. -/

namespace Quire

open Value Coercion

/-! ### Equal settings -/

inductive RootSetting.Same : RootSetting → RootSetting → Prop
  | path (n : FileName) : RootSetting.Same (.path n) (.path n)
  | other {v w : Value} (equal : v.same w) : RootSetting.Same (.other v) (.other w)

structure SourceConfig.Same (s t : SourceConfig) : Prop where
  patterns : s.patterns.same t.patterns
  root : s.root.Same t.root
  encoding : s.encoding.same t.encoding
  requireBlock : s.requireBlock.same t.requireBlock

structure AdaptiveConfig.Same (a b : AdaptiveConfig) : Prop where
  workers : a.workers.same b.workers
  threshold : a.threshold.same b.threshold

structure ProcessingConfig.Same (p q : ProcessingConfig) : Prop where
  parallel : p.parallel.same q.parallel
  workers : p.workers.same q.workers
  adaptive : p.adaptive.Same AdaptiveConfig.Same q.adaptive

structure StrategyProfile.Same (p q : StrategyProfile) : Prop where
  minFiles : p.minFiles.same q.minFiles
  workers : p.workers.same q.workers

structure BoundsConfig.Same (b c : BoundsConfig) : Prop where
  memory : b.memory.same c.memory
  files : b.files.same c.files
  time : b.time.same c.time
  unbounded : b.unbounded.same c.unbounded

structure OutputConfig.Same (o p : OutputConfig) : Prop where
  template : o.template.same p.template
  path : o.path.same p.path
  format : o.format.same p.format

structure LoggingConfig.Same (l m : LoggingConfig) : Prop where
  level : l.level.same m.level
  propagate : l.propagate.same m.propagate
  format : l.format.same m.format
  logger : l.logger.same m.logger

/-- Settings that are equal in every field of every group. -/
structure Config.Same (c d : Config) : Prop where
  schemaPath : c.schemaPath.same d.schemaPath
  mode : c.mode.same d.mode
  profileName : c.profileName.same d.profileName
  sources : c.sources.Same SourceConfig.Same d.sources
  processing : c.processing.Same ProcessingConfig.Same d.processing
  profile : c.profile.Same StrategyProfile.Same d.profile
  bounds : c.bounds.Same BoundsConfig.Same d.bounds
  output : c.output.Same OutputConfig.Same d.output
  logging : c.logging.Same LoggingConfig.Same d.logging

/-! ### The groups of settings -/

/-- A folder is a name that can be spelled. -/
structure SourceConfig.Declared (s : SourceConfig) : Prop extends SourceConfig.Typed s where
  spelled (n : FileName) (here : s.root = .path n) : n.Spelled

structure BoundsConfig.Declared (b : BoundsConfig) : Prop where
  memory : b.memory.OrNull IsReal
  files : b.files.OrNull IsWhole
  time : b.time.OrNull IsReal
  unbounded : b.unbounded.IsFlag

namespace AdaptiveConfig

variable {a b : AdaptiveConfig}

def settings (a : AdaptiveConfig) : List (String × Value) :=
  [("base_workers", a.workers), ("max_file_threshold", a.threshold)]

theorem report_eq (a : AdaptiveConfig) : a.report = reportOf a.settings := rfl

theorem told (typed : a.Typed) : ∀ f ∈ a.settings, f.2.Told := by
  simp only [settings, List.forall_mem_cons]
  exact ⟨whole_restores.told typed.workers, whole_restores.told typed.threshold, nofun⟩

theorem regains : Regains report ofValue Typed Same where
  told typed := reported_reportOf (by decide : fieldNames.Nodup) (told typed)
  there _ := rfl
  read {a} typed := by
    obtain ⟨es, reported, there⟩ :=
      reportOf_entries a.settings (by decide : fieldNames.Nodup)
    simp only [settings, List.forall_mem_cons] at there
    obtain ⟨workersThere, thresholdThere, -⟩ := there
    obtain ⟨workers, readWorkers, isWorkers, sameWorkers⟩ :=
      whole_restores.value typed.workers workersThere
    obtain ⟨threshold, readThreshold, isThreshold, sameThreshold⟩ :=
      whole_restores.value typed.threshold thresholdThere
    refine ⟨⟨workers, threshold⟩, ?_, ⟨isWorkers, isThreshold⟩, ⟨sameWorkers, sameThreshold⟩⟩
    rw [report_eq, reported, ofValue, entriesOf]
    simp only [bind, Except.bind, readWorkers, readThreshold]
    rfl

theorem report_same (same : b.Same a) (typed : a.Typed) (typed' : b.Typed) :
    b.report.same a.report :=
  reportOf_same (.cons ⟨rfl, same.workers⟩ (.cons ⟨rfl, same.threshold⟩ .nil)) (told typed')
    (told typed)

end AdaptiveConfig

namespace ProcessingConfig

variable {p q : ProcessingConfig}

def settings (p : ProcessingConfig) : List (String × Value) :=
  [("parallel", p.parallel), ("max_workers", p.workers),
   ("adaptive", p.adaptive.report AdaptiveConfig.report)]

theorem report_eq (p : ProcessingConfig) : p.report = reportOf p.settings := rfl

theorem told (typed : p.Typed) : ∀ f ∈ p.settings, f.2.Told := by
  simp only [settings, List.forall_mem_cons]
  exact ⟨flag_restores.told typed.parallel, whole_restores.orNull typed.workers,
    AdaptiveConfig.regains.told_nullable typed.adaptive, nofun⟩

theorem regains : Regains report ofValue Typed Same where
  told typed := reported_reportOf (by decide : fieldNames.Nodup) (told typed)
  there _ := rfl
  read {p} typed := by
    obtain ⟨es, reported, there⟩ :=
      reportOf_entries p.settings (by decide : fieldNames.Nodup)
    simp only [settings, List.forall_mem_cons] at there
    obtain ⟨parallelThere, workersThere, adaptiveThere, -⟩ := there
    obtain ⟨parallel, readParallel, isParallel, sameParallel⟩ :=
      flag_restores.value typed.parallel parallelThere
    obtain ⟨workers, readWorkers, isWorkers, sameWorkers⟩ :=
      whole_restores.nullable typed.workers workersThere
    obtain ⟨adaptive, readAdaptive, isAdaptive, sameAdaptive⟩ :=
      AdaptiveConfig.regains.nullable typed.adaptive adaptiveThere
    refine ⟨⟨parallel, workers, adaptive⟩, ?_, ⟨isParallel, isWorkers, isAdaptive⟩,
      ⟨sameParallel, sameWorkers, sameAdaptive⟩⟩
    rw [report_eq, reported, ofValue, entriesOf]
    simp only [bind, Except.bind, readParallel, readWorkers, readAdaptive]
    rfl

theorem report_same (same : q.Same p) (typed : p.Typed) (typed' : q.Typed) :
    q.report.same p.report := by
  have adaptive : (q.adaptive.report AdaptiveConfig.report).same
      (p.adaptive.report AdaptiveConfig.report) := by
    refine same.adaptive.report fun a b here here' equal => ?_
    have typedIn := (typed.adaptive.resolve_left (by simp [here])).of_fields here
    have typedIn' := (typed'.adaptive.resolve_left (by simp [here'])).of_fields here'
    exact AdaptiveConfig.report_same equal typedIn typedIn'
  exact reportOf_same (.cons ⟨rfl, same.parallel⟩ (.cons ⟨rfl, same.workers⟩
    (.cons ⟨rfl, adaptive⟩ .nil))) (told typed') (told typed)

end ProcessingConfig

namespace StrategyProfile

variable {p q : StrategyProfile}

def settings (p : StrategyProfile) : List (String × Value) :=
  [("min_files_for_parallel", p.minFiles), ("default_max_workers", p.workers)]

theorem report_eq (p : StrategyProfile) : p.report = reportOf p.settings := rfl

theorem told (typed : p.Typed) : ∀ f ∈ p.settings, f.2.Told := by
  simp only [settings, List.forall_mem_cons]
  exact ⟨whole_restores.told typed.minFiles, whole_restores.told typed.workers, nofun⟩

theorem regains : Regains report ofValue Typed Same where
  told typed := reported_reportOf (by decide : fieldNames.Nodup) (told typed)
  there _ := rfl
  read {p} typed := by
    obtain ⟨es, reported, there⟩ :=
      reportOf_entries p.settings (by decide : fieldNames.Nodup)
    simp only [settings, List.forall_mem_cons] at there
    obtain ⟨minFilesThere, workersThere, -⟩ := there
    obtain ⟨minFiles, readMinFiles, isMinFiles, sameMinFiles⟩ :=
      whole_restores.value typed.minFiles minFilesThere
    obtain ⟨workers, readWorkers, isWorkers, sameWorkers⟩ :=
      whole_restores.value typed.workers workersThere
    refine ⟨⟨minFiles, workers⟩, ?_, ⟨isMinFiles, isWorkers⟩, ⟨sameMinFiles, sameWorkers⟩⟩
    rw [report_eq, reported, ofValue, entriesOf]
    simp only [bind, Except.bind, readMinFiles, readWorkers]
    rfl

theorem report_same (same : q.Same p) (typed : p.Typed) (typed' : q.Typed) :
    q.report.same p.report :=
  reportOf_same (.cons ⟨rfl, same.minFiles⟩ (.cons ⟨rfl, same.workers⟩ .nil)) (told typed')
    (told typed)

end StrategyProfile

namespace BoundsConfig

variable {b c : BoundsConfig}

def settings (b : BoundsConfig) : List (String × Value) :=
  [("memory_limit_mb", b.memory), ("file_limit", b.files), ("time_limit_s", b.time),
   ("unbounded", b.unbounded)]

theorem report_eq (b : BoundsConfig) : b.report = reportOf b.settings := rfl

theorem told (declared : b.Declared) : ∀ f ∈ b.settings, f.2.Told := by
  simp only [settings, List.forall_mem_cons]
  exact ⟨real_restores.orNull declared.memory, whole_restores.orNull declared.files,
    real_restores.orNull declared.time, flag_restores.told declared.unbounded, nofun⟩

theorem regains : Regains report ofValue Declared Same where
  told declared := reported_reportOf (by decide : fieldNames.Nodup) (told declared)
  there _ := rfl
  read {b} declared := by
    obtain ⟨es, reported, there⟩ :=
      reportOf_entries b.settings (by decide : fieldNames.Nodup)
    simp only [settings, List.forall_mem_cons] at there
    obtain ⟨memoryThere, filesThere, timeThere, unboundedThere, -⟩ := there
    obtain ⟨memory, readMemory, isMemory, sameMemory⟩ :=
      real_restores.nullable declared.memory memoryThere
    obtain ⟨files, readFiles, isFiles, sameFiles⟩ :=
      whole_restores.nullable declared.files filesThere
    obtain ⟨time, readTime, isTime, sameTime⟩ := real_restores.nullable declared.time timeThere
    obtain ⟨unbounded, readUnbounded, isUnbounded, sameUnbounded⟩ :=
      flag_restores.value declared.unbounded unboundedThere
    refine ⟨⟨memory, files, time, unbounded⟩, ?_, ⟨isMemory, isFiles, isTime, isUnbounded⟩,
      ⟨sameMemory, sameFiles, sameTime, sameUnbounded⟩⟩
    rw [report_eq, reported, ofValue, entriesOf]
    simp only [bind, Except.bind, readMemory, readFiles, readTime, readUnbounded]
    rfl

theorem report_same (same : c.Same b) (declared : b.Declared) (declared' : c.Declared) :
    c.report.same b.report :=
  reportOf_same (.cons ⟨rfl, same.memory⟩ (.cons ⟨rfl, same.files⟩ (.cons ⟨rfl, same.time⟩
    (.cons ⟨rfl, same.unbounded⟩ .nil)))) (told declared') (told declared)

end BoundsConfig

namespace OutputConfig

variable {o p : OutputConfig}

def settings (o : OutputConfig) : List (String × Value) :=
  [("template_path", o.template), ("output_path", o.path), ("format", o.format)]

theorem report_eq (o : OutputConfig) : o.report = reportOf o.settings := rfl

theorem told (typed : o.Typed) : ∀ f ∈ o.settings, f.2.Told := by
  simp only [settings, List.forall_mem_cons]
  exact ⟨text_restores.orNull typed.template, text_restores.orNull typed.path,
    text_restores.told typed.format, nofun⟩

theorem regains : Regains report ofValue Typed Same where
  told typed := reported_reportOf (by decide : fieldNames.Nodup) (told typed)
  there _ := rfl
  read {o} typed := by
    obtain ⟨es, reported, there⟩ :=
      reportOf_entries o.settings (by decide : fieldNames.Nodup)
    simp only [settings, List.forall_mem_cons] at there
    obtain ⟨templateThere, pathThere, formatThere, -⟩ := there
    obtain ⟨template, readTemplate, isTemplate, sameTemplate⟩ :=
      text_restores.nullable typed.template templateThere
    obtain ⟨path, readPath, isPath, samePath⟩ := text_restores.nullable typed.path pathThere
    obtain ⟨format, readFormat, isFormat, sameFormat⟩ :=
      text_restores.value typed.format formatThere
    refine ⟨⟨template, path, format⟩, ?_, ⟨isTemplate, isPath, isFormat⟩,
      ⟨sameTemplate, samePath, sameFormat⟩⟩
    rw [report_eq, reported, ofValue, entriesOf]
    simp only [bind, Except.bind, readTemplate, readPath, readFormat]
    rfl

theorem report_same (same : p.Same o) (typed : o.Typed) (typed' : p.Typed) :
    p.report.same o.report :=
  reportOf_same (.cons ⟨rfl, same.template⟩ (.cons ⟨rfl, same.path⟩ (.cons ⟨rfl, same.format⟩
    .nil))) (told typed') (told typed)

end OutputConfig

/-- With the usual form of a log entry where none was given. -/
def LoggingConfig.formatted (l : LoggingConfig) : LoggingConfig :=
  { l with format := if l.format.isNull then .str defaultLogFormat else l.format }

namespace LoggingConfig

variable {l m : LoggingConfig}

def settings (l : LoggingConfig) : List (String × Value) :=
  [("level", l.level), ("propagate", l.propagate), ("fmt", l.format), ("logger_name", l.logger)]

theorem report_eq (l : LoggingConfig) : l.report = reportOf l.settings := rfl

theorem told (typed : l.Typed) : ∀ f ∈ l.settings, f.2.Told := by
  simp only [settings, List.forall_mem_cons]
  exact ⟨anything_restores.told typed.level, flag_restores.told typed.propagate,
    text_restores.orNull typed.format, text_restores.told typed.logger, nofun⟩

/-- A form that was not given comes back as the usual one. -/
theorem format_returns {es : Entries} (typed : l.Typed)
    (there : Entries.field? es "fmt" = l.format.reported?) :
    ∃ w, value table es "fmt" (.str defaultLogFormat) text = .ok w ∧ w.IsText ∧
      w.same l.formatted.format := by
  rw [formatted]
  dsimp only
  rcases typed.format with null | is
  · rw [null] at there ⊢
    refine ⟨.str defaultLogFormat, ?_, ⟨_, rfl⟩, (rigid_same rfl).mpr rfl⟩
    unfold value field
    rw [there]
    rfl
  · obtain ⟨w, read, is', same⟩ := text_restores.value is there
    rw [(text_restores.plain is).2, if_neg Bool.false_ne_true]
    exact ⟨w, read _ _, is', same⟩

theorem regains : Regains report ofValue Typed fun m l => m.Same l.formatted where
  told typed := reported_reportOf (by decide : fieldNames.Nodup) (told typed)
  there _ := rfl
  read {l} typed := by
    obtain ⟨es, reported, there⟩ :=
      reportOf_entries l.settings (by decide : fieldNames.Nodup)
    simp only [settings, List.forall_mem_cons] at there
    obtain ⟨levelThere, propagateThere, formatThere, loggerThere, -⟩ := there
    obtain ⟨level, readLevel, isLevel, sameLevel⟩ := anything_restores.value typed.level levelThere
    obtain ⟨propagate, readPropagate, isPropagate, samePropagate⟩ :=
      flag_restores.value typed.propagate propagateThere
    obtain ⟨format, readFormat, isFormat, sameFormat⟩ := format_returns typed formatThere
    obtain ⟨logger, readLogger, isLogger, sameLogger⟩ :=
      text_restores.value typed.logger loggerThere
    refine ⟨⟨level, propagate, format, logger⟩, ?_,
      ⟨isLevel, isPropagate, .inr isFormat, isLogger⟩,
      ⟨sameLevel, samePropagate, sameFormat, sameLogger⟩⟩
    rw [report_eq, reported, ofValue, entriesOf]
    simp only [bind, Except.bind, readLevel, readPropagate, readFormat, readLogger]
    rfl

theorem report_same (same : m.Same l) (typed : l.Typed) (typed' : m.Typed) :
    m.report.same l.report :=
  reportOf_same (.cons ⟨rfl, same.level⟩ (.cons ⟨rfl, same.propagate⟩ (.cons ⟨rfl, same.format⟩
    (.cons ⟨rfl, same.logger⟩ .nil)))) (told typed') (told typed)

end LoggingConfig

namespace SourceConfig

variable {s t : SourceConfig}

def settings (s : SourceConfig) : List (String × Value) :=
  [("patterns", s.patterns), ("root_dir", s.root.report), ("encoding", s.encoding),
   ("require_frontmatter", s.requireBlock)]

theorem report_eq (s : SourceConfig) : s.report = reportOf s.settings := rfl

theorem told (declared : s.Declared) : ∀ f ∈ s.settings, f.2.Told := by
  have root : s.root.report.Told := by
    rcases declared.root with null | ⟨n, here⟩
    · rw [null]
      rfl
    · rw [here]
      rfl
  simp only [settings, List.forall_mem_cons]
  exact ⟨texts_restores.told declared.patterns, root, text_restores.told declared.encoding,
    flag_restores.told declared.requireBlock, nofun⟩

/-- The folder comes back as it was. -/
theorem root_returns {es : Entries} (declared : s.Declared)
    (there : Entries.field? es "root_dir" = s.root.report.reported?) :
    (field table es "root_dir" (.other .null) (.other .null) fun v => do
      return .path (← (FileName.ofValue v : Except Mishap _))) = .ok s.root := by
  unfold field
  rw [there]
  rcases declared.root with null | ⟨n, here⟩
  · rw [null]
    rfl
  · have read := FileName.ofString_text (declared.spelled n here)
    rw [here]
    simp only [RootSetting.report, reported?, FileName.ofValue, read]
    rfl

theorem regains : Regains report ofValue Declared Same where
  told declared := reported_reportOf (by decide : fieldNames.Nodup) (told declared)
  there _ := rfl
  read {s} declared := by
    obtain ⟨es, reported, there⟩ :=
      reportOf_entries s.settings (by decide : fieldNames.Nodup)
    simp only [settings, List.forall_mem_cons] at there
    obtain ⟨patternsThere, rootThere, encodingThere, blockThere, -⟩ := there
    obtain ⟨patterns, readPatterns, isPatterns, samePatterns⟩ :=
      texts_restores.value declared.patterns patternsThere
    have readRoot := root_returns declared rootThere
    have sameRoot : s.root.Same s.root := by
      rcases declared.root with null | ⟨n, here⟩
      · rw [null]
        exact .other ((rigid_same rfl).mpr rfl)
      · rw [here]
        exact .path n
    obtain ⟨encoding, readEncoding, isEncoding, sameEncoding⟩ :=
      text_restores.value declared.encoding encodingThere
    obtain ⟨block, readBlock, isBlock, sameBlock⟩ :=
      flag_restores.value declared.requireBlock blockThere
    refine ⟨⟨patterns, s.root, encoding, block⟩, ?_,
      ⟨⟨isPatterns, declared.root, isEncoding, isBlock⟩, declared.spelled⟩,
      ⟨samePatterns, sameRoot, sameEncoding, sameBlock⟩⟩
    rw [report_eq, reported]
    refine bind_eq_ok.mpr ⟨_, rfl, bind_eq_ok.mpr ⟨_, readPatterns _ _, ?_⟩⟩
    refine bind_eq_ok.mpr ⟨_, readRoot, bind_eq_ok.mpr ⟨_, readEncoding _ _, ?_⟩⟩
    exact bind_eq_ok.mpr ⟨_, readBlock _ _, rfl⟩

theorem report_same (same : t.Same s) (declared : s.Declared) (declared' : t.Declared) :
    t.report.same s.report := by
  have root : t.root.report.same s.root.report := by
    have equal := same.root
    generalize t.root = r at equal ⊢
    generalize s.root = q at equal ⊢
    cases equal with
    | path n => exact (rigid_same rfl).mpr rfl
    | other equal => exact equal
  exact reportOf_same (.cons ⟨rfl, same.patterns⟩ (.cons ⟨rfl, root⟩ (.cons ⟨rfl, same.encoding⟩
    (.cons ⟨rfl, same.requireBlock⟩ .nil)))) (told declared') (told declared)

end SourceConfig

/-! ### The whole settings -/

/-- Settings that hold values of the kinds they are declared with. -/
structure Config.Declared (c : Config) : Prop where
  schemaPath : c.schemaPath.OrNull IsText
  mode : c.mode.IsText
  profileName : c.profileName.OrNull IsText
  sources : c.sources.Has SourceConfig.Declared
  processing : c.processing.Has ProcessingConfig.Typed
  profile : c.profile.Has StrategyProfile.Typed
  bounds : c.bounds.Has BoundsConfig.Declared
  output : c.output.Has OutputConfig.Typed
  logging : c.logging.Has LoggingConfig.Typed

namespace Config

variable {c d : Config}

def settings (c : Config) : List (String × Value) :=
  [("schema_path", c.schemaPath), ("mode", c.mode), ("profile_name", c.profileName),
   ("sources", c.sources.report SourceConfig.report),
   ("processing", c.processing.report ProcessingConfig.report),
   ("profile", c.profile.report StrategyProfile.report),
   ("bounds", c.bounds.report BoundsConfig.report),
   ("output", c.output.report OutputConfig.report),
   ("logging", c.logging.report LoggingConfig.report)]

theorem report_eq (c : Config) : c.report = reportOf c.settings := rfl

theorem told (declared : c.Declared) : ∀ f ∈ c.settings, f.2.Told := by
  simp only [settings, List.forall_mem_cons]
  exact ⟨text_restores.orNull declared.schemaPath, text_restores.told declared.mode,
    text_restores.orNull declared.profileName, SourceConfig.regains.told_report declared.sources,
    ProcessingConfig.regains.told_report declared.processing,
    StrategyProfile.regains.told_report declared.profile,
    BoundsConfig.regains.told_report declared.bounds,
    OutputConfig.regains.told_report declared.output,
    LoggingConfig.regains.told_report declared.logging, nofun⟩

/-- No name in a report is unknown. -/
theorem checkNames_report {label : String} {allowed : List String} (fs : List (String × Value))
    (known : ∀ f ∈ fs, f.1 ∈ allowed) : checkNames label allowed (reportOf fs) = .ok () := by
  have none' : (Entries.keys (reportedEntries fs)).filter
      (fun k => !allowed.any fun name => k.same (.str name)) = [] := by
    refine List.filter_eq_nil_iff.mpr fun k inside unknown => ?_
    obtain ⟨e, among, rfl⟩ := List.mem_map.mp inside
    obtain ⟨f, there, key, _⟩ := mem_reportedEntries among
    rw [key] at unknown
    simp at unknown
    exact unknown f.1 (known f there) rfl
  rw [reportOf_eq, checkNames]
  split
  · rfl
  · dsimp only
    rw [none']
    rfl

theorem report_same (same : d.Same c) (declared : c.Declared) (declared' : d.Declared) :
    d.report.same c.report := by
  have sources := same.sources.report fun a b here here' equal => SourceConfig.report_same equal
    (declared.sources.of_fields here) (declared'.sources.of_fields here')
  have processing := same.processing.report fun a b here here' equal =>
    ProcessingConfig.report_same equal (declared.processing.of_fields here)
      (declared'.processing.of_fields here')
  have profile := same.profile.report fun a b here here' equal => StrategyProfile.report_same equal
    (declared.profile.of_fields here) (declared'.profile.of_fields here')
  have bounds := same.bounds.report fun a b here here' equal => BoundsConfig.report_same equal
    (declared.bounds.of_fields here) (declared'.bounds.of_fields here')
  have output := same.output.report fun a b here here' equal => OutputConfig.report_same equal
    (declared.output.of_fields here) (declared'.output.of_fields here')
  have logging := same.logging.report fun a b here here' equal => LoggingConfig.report_same equal
    (declared.logging.of_fields here) (declared'.logging.of_fields here')
  have alike : List.Forall₂ Alike d.settings c.settings :=
    .cons ⟨rfl, same.schemaPath⟩ (.cons ⟨rfl, same.mode⟩ (.cons ⟨rfl, same.profileName⟩
      (.cons ⟨rfl, sources⟩ (.cons ⟨rfl, processing⟩ (.cons ⟨rfl, profile⟩
        (.cons ⟨rfl, bounds⟩ (.cons ⟨rfl, output⟩ (.cons ⟨rfl, logging⟩ .nil))))))))
  exact reportOf_same alike (told declared') (told declared)

/-- With the usual form of a log entry where none was given. -/
def formatted (c : Config) : Config :=
  match c.logging with
  | .fields l => { c with logging := .fields l.formatted }
  | .other _ => c

/-- Whether a form of a log entry was given. -/
def GivesFormat (c : Config) : Prop := ∀ l, c.logging = .fields l → l.format.isNull = false

theorem formatted_of_given (given : c.GivesFormat) : c.formatted = c := by
  obtain ⟨schemaPath, mode, profileName, sources, processing, profile, bounds, output, logging⟩ := c
  cases logging with
  | other v => rfl
  | fields l =>
    have there := given l rfl
    have kept : l.formatted = l := by
      rw [LoggingConfig.formatted, there]
      rfl
    rw [formatted]
    dsimp only
    rw [kept]

/-- Settings of the kinds they are declared with are read again from their report. All come back
equal but a form of a log entry that was not given, which comes back as the usual one; and where
it was given they have an equal report. -/
theorem ofValue_report (declared : c.Declared) : ∃ d, ofValue c.report = .ok d ∧ d.Declared ∧
    d.Same c.formatted ∧ (c.GivesFormat → d.Same c ∧ d.report.same c.report) := by
  obtain ⟨es, reported, there⟩ :=
    reportOf_entries c.settings (by decide : fieldNames.Nodup)
  have known : checkNames "docweave config" fieldNames c.report = .ok () :=
    checkNames_report c.settings (by simp [settings, fieldNames])
  simp only [settings, List.forall_mem_cons] at there
  obtain ⟨pathThere, modeThere, nameThere, sourcesThere, processingThere, profileThere,
    boundsThere, outputThere, loggingThere, -⟩ := there
  obtain ⟨path, readPath, isPath, samePath⟩ :=
    text_restores.nullable declared.schemaPath pathThere
  obtain ⟨mode, readMode, isMode, sameMode⟩ := text_restores.value declared.mode modeThere
  obtain ⟨name, readName, isName, sameName⟩ :=
    text_restores.nullable declared.profileName nameThere
  obtain ⟨sources, readSources, isSources, sameSources⟩ :=
    SourceConfig.regains.inner declared.sources sourcesThere
  obtain ⟨processing, readProcessing, isProcessing, sameProcessing⟩ :=
    ProcessingConfig.regains.inner declared.processing processingThere
  obtain ⟨profile, readProfile, isProfile, sameProfile⟩ :=
    StrategyProfile.regains.inner declared.profile profileThere
  obtain ⟨bounds, readBounds, isBounds, sameBounds⟩ :=
    BoundsConfig.regains.inner declared.bounds boundsThere
  obtain ⟨output, readOutput, isOutput, sameOutput⟩ :=
    OutputConfig.regains.inner declared.output outputThere
  obtain ⟨logging, readLogging, isLogging, sameLogging⟩ :=
    LoggingConfig.regains.inner declared.logging loggingThere
  let d : Config := ⟨path, mode, name, sources, processing, profile, bounds, output, logging⟩
  have declared' : d.Declared := ⟨isPath, isMode, isName, isSources, isProcessing, isProfile,
    isBounds, isOutput, isLogging⟩
  have read : ofValue c.report = .ok d := by
    rw [report_eq, reported] at known ⊢
    refine bind_eq_ok.mpr ⟨_, known, bind_eq_ok.mpr ⟨es, rfl, ?_⟩⟩
    refine bind_eq_ok.mpr ⟨_, readPath _, bind_eq_ok.mpr ⟨_, readMode _ _, ?_⟩⟩
    refine bind_eq_ok.mpr ⟨_, readName _, bind_eq_ok.mpr ⟨_, readSources _ _, ?_⟩⟩
    refine bind_eq_ok.mpr ⟨_, readProcessing _ _, bind_eq_ok.mpr ⟨_, readProfile _ _, ?_⟩⟩
    refine bind_eq_ok.mpr ⟨_, readBounds _ _, bind_eq_ok.mpr ⟨_, readOutput _ _, ?_⟩⟩
    exact bind_eq_ok.mpr ⟨_, readLogging _ _, rfl⟩
  have same : d.Same c.formatted := by
    obtain ⟨l, here, _⟩ := declared.logging
    rw [formatted, here]
    rw [here] at sameLogging
    refine ⟨samePath, sameMode, sameName, sameSources, sameProcessing, sameProfile, sameBounds,
      sameOutput, ?_⟩
    cases sameLogging with
    | fields equal => exact .fields equal
  refine ⟨d, read, declared', same, fun given => ?_⟩
  rw [formatted_of_given given] at same
  exact ⟨same, report_same same declared declared'⟩

/-- Settings of which some are not the usual ones. -/
def sample : Config where
  schemaPath := .str "schema.yaml"
  sources := .fields {
    patterns := .list [.str "docs/**/*.md"]
    root := .path (FileName.ofString "site//./src") }
  processing := .fields { workers := .bool true, adaptive := .fields { threshold := .int 0 } }
  bounds := .fields { memory := .int 512, files := .int 100, time := .real (.finite false 1) }
  logging := .fields { level := .int 20 }

theorem ofValue_report_sample :
    ∃ d, ofValue sample.report = .ok d ∧ d.Same sample ∧ d.report.same sample.report := by
  have memory : Binary64.IsExact 512 := .of_lt (by decide)
  have declared : sample.Declared := {
    schemaPath := .inr ⟨_, rfl⟩
    mode := ⟨_, rfl⟩
    profileName := .inl rfl
    sources := ⟨_, rfl, ⟨⟨["docs/**/*.md"], rfl⟩, .inr ⟨_, rfl⟩, ⟨_, rfl⟩, ⟨_, rfl⟩⟩, by
      rintro n ⟨⟩
      exact FileName.ofString_spelled _⟩
    processing := ⟨_, rfl, ⟨_, rfl⟩, .inr ⟨1, rfl⟩, .inr ⟨_, rfl, ⟨4, rfl⟩, ⟨0, rfl⟩⟩⟩
    profile := ⟨_, rfl, ⟨2, rfl⟩, ⟨4, rfl⟩⟩
    bounds := ⟨_, rfl, .inr (.inr ⟨512, rfl, memory⟩), .inr ⟨100, rfl⟩,
      .inr (.inl ⟨_, rfl, rfl⟩), ⟨_, rfl⟩⟩
    output := ⟨_, rfl, .inl rfl, .inl rfl, ⟨_, rfl⟩⟩
    logging := ⟨_, rfl, .inr ⟨20, rfl⟩, ⟨_, rfl⟩, .inr ⟨_, rfl⟩, ⟨_, rfl⟩⟩ }
  have given : sample.GivesFormat := by
    rintro l ⟨⟩
    rfl
  obtain ⟨d, read, _, _, again⟩ := ofValue_report declared
  exact ⟨d, read, again given⟩

end Config

end Quire
