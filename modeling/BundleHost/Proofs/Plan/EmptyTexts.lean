import BundleHost.Proofs.Path.Clean
import BundleHost.Proofs.Plan.Reading
import BundleHost.Proofs.Regex.Lawful
import BundleHost.Proofs.Settings.Accepted
import BundleHost.Proofs.Settings.Checks

/-!
# Empty texts

An option that was given an empty text mostly counts as an option that was given nothing. Settings
that agree but for empty texts have plans that agree but for what a plan makes of the fact that
something was given: how elements are made, and templates for file names. Validation asks of some
options whether they were given, too.

## Main statements

* `AlikeButEmpty.ofBuild_eq` — the plans of settings that agree but for empty texts.
* `validate_update_empty`, `validate_update_asked` — what validation makes of a text.
* `empty_text_counts_as_unset` — giving an empty text where nothing was given.
-/

namespace BundleHost

open SettingsKind OptionFamily Settings

/-- An empty text. -/
def ScalarType.isEmpty : (t : ScalarType) → t.Value → Bool
  | .text, given => String.isEmpty given
  | _, _ => false

theorem ScalarType.isEmpty_of_ne_text {t : ScalarType} (other : t ≠ .text) (x : t.Value) :
    t.isEmpty x = false := by
  cases t with
  | text => exact absurd rfl other
  | _ => rfl

namespace Settings

variable {kind : SettingsKind}

/-- What an option was set to, unless that is an empty text. -/
def present? (settings : kind.Settings) (o : kind.ScalarOption) : Option (Value o) :=
  (explicit? settings o).filter fun value => !(type o).isEmpty value

theorem present?_of_ne_text {settings : kind.Settings} {o : kind.ScalarOption}
    (other : type o ≠ .text) : present? settings o = explicit? settings o := by
  rw [present?]
  cases explicit? settings o with
  | none => rfl
  | some x => simp [Option.filter, ScalarType.isEmpty_of_ne_text other x]

/-- The settings agree but for texts that are empty in one of them and absent in the other. -/
structure AlikeButEmpty (a b : kind.Settings) : Prop where
  present_eq (o : kind.ScalarOption) : present? a o = present? b o
  content_eq (c : kind.Collection) : content a c = content b c

theorem AlikeButEmpty.explicit?_eq {a b : kind.Settings} (alike : AlikeButEmpty a b)
    {o : kind.ScalarOption} (other : type o ≠ .text) : explicit? a o = explicit? b o := by
  rw [← present?_of_ne_text other, ← present?_of_ne_text other]
  exact alike.present_eq o

/-- Giving an empty text to an option to which nothing was given. -/
theorem alikeButEmpty_update {settings : kind.Settings} {o : kind.ScalarOption}
    (unset : explicit? settings o = none) {x : Value o} (empty : (type o).isEmpty x = true) :
    AlikeButEmpty settings (update settings o (some x)) where
  present_eq p := by
    by_cases same : p = o
    · subst same
      simp [present?, unset, Option.filter, empty]
    · rw [present?, present?, explicit?_update_of_ne settings same]
  content_eq c := (content_update settings o _ c).symm

end Settings

/-! ## Directories -/

namespace Plan

variable {base : String} (settled : Path.clean base = base)
include settled

/-- An empty directory is as good as none. -/
theorem directory_nonEmpty (given : Option String) :
    directory base given = directory base (nonEmpty given) := by
  cases given with
  | none => rfl
  | some dir =>
    by_cases empty : dir = ""
    · subst empty
      exact (Path.clean_join_empty base).trans settled
    · have kept : nonEmpty (some dir) = some dir := by simp [nonEmpty, empty]
      rw [kept]

theorem clean_directory (given : Option String) :
    Path.clean (directory base given) = directory base given := by
  cases given with
  | none => exact settled
  | some dir => exact Path.clean_clean _

end Plan

/-! ## Plans -/

namespace Settings.AlikeButEmpty

variable {a b : BuildSettings} (alike : @AlikeButEmpty .build a b)

include alike

theorem own_eq (o : BuildOption) (other : o.type ≠ .text) : a.explicit? o = b.explicit? o :=
  @explicit?_eq .build a b alike (.own o) other

theorem ownValue_eq (o : BuildOption) (other : o.type ≠ .text) : a.value o = b.value o :=
  congrArg (fun value => value.getD (OptionFamily.default o)) (alike.own_eq o other)

theorem shared_eq (o : SharedOption) (other : o.type ≠ .text) :
    a.shared.explicit? o = b.shared.explicit? o :=
  @explicit?_eq .build a b alike (.shared o) other

theorem sharedValue_eq (o : SharedOption) (other : o.type ≠ .text) :
    a.shared.value o = b.shared.value o :=
  congrArg (fun value => value.getD (OptionFamily.default o)) (alike.shared_eq o other)

theorem buildDir_eq {site : RunSite} (settled : Path.clean site.processDir = site.processDir) :
    Plan.buildDir site a = Plan.buildDir site b := by
  have given : nonEmpty (a.explicit? .absWorkingDir) = nonEmpty (b.explicit? .absWorkingDir) :=
    alike.present_eq (.own .absWorkingDir)
  rw [Plan.buildDir, Plan.buildDir, Plan.directory_nonEmpty settled, given,
    ← Plan.directory_nonEmpty settled]

theorem resolveDir_eq {dir : String} (settled : Path.clean dir = dir) :
    Plan.directory dir (a.explicit? .resolveDir) =
      Plan.directory dir (b.explicit? .resolveDir) := by
  have given : nonEmpty (a.explicit? .resolveDir) = nonEmpty (b.explicit? .resolveDir) :=
    alike.present_eq (.own .resolveDir)
  rw [Plan.directory_nonEmpty settled, given, ← Plan.directory_nonEmpty settled]

/-- Whether options about elements were given counts for elements, whatever their text is. -/
theorem jsxPlan_eq (given : a.shared.configuresJsx = b.shared.configuresJsx) :
    a.shared.jsxPlan = b.shared.jsxPlan := by
  have mode : a.shared.jsx = b.shared.jsx := alike.sharedValue_eq .jsx (by simp)
  have development := alike.sharedValue_eq .jsxDev (by simp)
  have sideEffects := alike.sharedValue_eq .jsxSideEffects (by simp)
  have importSource : nonEmpty (a.shared.explicit? .jsxImportSource) =
      nonEmpty (b.shared.explicit? .jsxImportSource) :=
    alike.present_eq (.shared .jsxImportSource)
  have factory : nonEmpty (a.shared.explicit? .jsxFactory) =
      nonEmpty (b.shared.explicit? .jsxFactory) := alike.present_eq (.shared .jsxFactory)
  have fragment : nonEmpty (a.shared.explicit? .jsxFragment) =
      nonEmpty (b.shared.explicit? .jsxFragment) := alike.present_eq (.shared .jsxFragment)
  simp only [SharedSettings.jsxPlan, given, mode, development, sideEffects, importSource, factory,
    fragment]

theorem engineOptions_eq (format : OutputFormat) (cwd : String) (bundling : Bool) :
    b.shared.engineOptions format cwd bundling =
      { a.shared.engineOptions format cwd bundling with jsx := b.shared.jsxPlan } := by
  have globalName : nonEmpty (a.shared.explicit? .globalName) =
      nonEmpty (b.shared.explicit? .globalName) := alike.present_eq (.shared .globalName)
  have pureNames : a.shared.pureNames = b.shared.pureNames := alike.content_eq .pureNames
  have define : a.shared.define = b.shared.define := alike.content_eq .define
  have dropLabels : a.shared.dropLabels = b.shared.dropLabels := alike.content_eq .dropLabels
  have engines : a.shared.engines = b.shared.engines := alike.content_eq .engines
  have keepNames := alike.shared_eq .keepNames (by simp)
  have platform : a.shared.platform = b.shared.platform := alike.sharedValue_eq .platform (by simp)
  have sourcemap : a.shared.sourcemap = b.shared.sourcemap :=
    alike.sharedValue_eq .sourcemap (by simp)
  have comments : a.shared.legalComments = b.shared.legalComments :=
    alike.sharedValue_eq .legalComments (by simp)
  have target : a.shared.target = b.shared.target := alike.sharedValue_eq .target (by simp)
  have shaking : a.shared.treeShaking = b.shared.treeShaking :=
    alike.sharedValue_eq .treeShaking (by simp)
  have annotations := alike.sharedValue_eq .ignoreAnnotations (by simp)
  have whitespace : a.shared.minifyWhitespace = b.shared.minifyWhitespace :=
    alike.sharedValue_eq .minifyWhitespace (by simp)
  have identifiers : a.shared.minifyIdentifiers = b.shared.minifyIdentifiers :=
    alike.sharedValue_eq .minifyIdentifiers (by simp)
  have syntaxes : a.shared.minifySyntax = b.shared.minifySyntax :=
    alike.sharedValue_eq .minifySyntax (by simp)
  simp only [SharedSettings.engineOptions, SharedSettings.shakePlan, SharedSettings.minifyAny,
    SharedSettings.targetNames, globalName, pureNames, define, dropLabels, engines, keepNames,
    platform, sourcemap, comments, target, shaking, annotations, whitespace, identifiers, syntaxes]

theorem externals_eq : ExternalPolicy.forBuild a = ExternalPolicy.forBuild b := by
  have bundle : a.bundle = b.bundle := alike.ownValue_eq .bundle (by simp)
  have packages : a.packages = b.packages := alike.ownValue_eq .packages (by simp)
  have external : a.external = b.external := alike.content_eq .external
  unfold ExternalPolicy.forBuild
  rw [bundle, packages, external]

theorem injections_eq [RegexEngine] (disk : Disk) (cwd : String) :
    a.injections disk cwd = b.injections disk cwd := by
  have inject : a.inject = b.inject := alike.content_eq .inject
  unfold BuildSettings.injections
  rw [inject]

/-- Plans agree but for warnings, for templates, which may be empty, and for elements, where it
counts what was given. -/
theorem ofBuild_eq {site : RunSite} (settled : Path.clean site.processDir = site.processDir)
    (inject : Option (List Injection)) :
    Plan.ofBuild site b inject =
      { Plan.ofBuild site a inject with
        warnings := @warnings .build b
        options := { (Plan.ofBuild site a inject).options with
          jsx := b.shared.jsxPlan
          entryFilenames := (b.explicit? .entryNames).map (filenameTemplate · ".js")
          chunkFilenames := (b.explicit? .chunkNames).map (filenameTemplate · ".js")
          assetFilenames := (b.explicit? .assetNames).map (filenameTemplate · "[extname]") } } := by
  have dir := alike.buildDir_eq settled
  have resolveDir : Plan.directory (Plan.buildDir site b) (a.explicit? .resolveDir) =
      Plan.directory (Plan.buildDir site b) (b.explicit? .resolveDir) :=
    alike.resolveDir_eq (Plan.clean_directory settled _)
  have banner : nonEmpty (a.shared.explicit? .banner) = nonEmpty (b.shared.explicit? .banner) :=
    alike.present_eq (.shared .banner)
  have footer : nonEmpty (a.shared.explicit? .footer) = nonEmpty (b.shared.explicit? .footer) :=
    alike.present_eq (.shared .footer)
  have sourcefile : nonEmpty (a.explicit? .sourcefile) = nonEmpty (b.explicit? .sourcefile) :=
    alike.present_eq (.own .sourcefile)
  have tsconfig : nonEmpty (a.explicit? .tsconfig) = nonEmpty (b.explicit? .tsconfig) :=
    alike.present_eq (.own .tsconfig)
  have format : a.shared.format = b.shared.format := alike.sharedValue_eq .format (by simp)
  have platform : a.shared.platform = b.shared.platform := alike.sharedValue_eq .platform (by simp)
  have loader : a.loader = b.loader := alike.ownValue_eq .loader (by simp)
  have bundle : a.bundle = b.bundle := alike.ownValue_eq .bundle (by simp)
  have symlinks : a.preserveSymlinks = b.preserveSymlinks :=
    alike.ownValue_eq .preserveSymlinks (by simp)
  have splitting := alike.own_eq .splitting (by simp)
  have entryPoints : a.entryPoints = b.entryPoints := alike.content_eq .entryPoints
  simp only [Plan.ofBuild, alike.engineOptions_eq, alike.externals_eq, dir, resolveDir, banner,
    footer, sourcefile, tsconfig, format, platform, loader, bundle, symlinks, splitting,
    entryPoints]
  rfl

end Settings.AlikeButEmpty

/-! ## Elements -/

namespace Settings

variable {settings : BuildSettings} {o : ScalarOption .build} {x : Value o}

/-- The options about elements that are texts. -/
def jsxTexts : List (ScalarOption .build) :=
  [.shared .jsxFactory, .shared .jsxFragment, .shared .jsxImportSource]

theorem configuresJsx_update_of_mem (jsx : o ∈ jsxTexts) :
    (sharedPart (update settings o (some x))).configuresJsx = true := by
  simp only [jsxTexts, List.mem_cons, List.not_mem_nil, or_false] at jsx
  obtain rfl | rfl | rfl := jsx
  · exact List.any_eq_true.mpr ⟨.jsxFactory, by decide, rfl⟩
  · exact List.any_eq_true.mpr ⟨.jsxFragment, by decide, rfl⟩
  · exact List.any_eq_true.mpr ⟨.jsxImportSource, by decide, rfl⟩

theorem configuresJsx_update_of_not_mem (textual : type o = .text) (other : o ∉ jsxTexts) :
    (sharedPart (update settings o (some x))).configuresJsx = settings.shared.configuresJsx := by
  have same (p : SharedOption) (apart : ScalarOption.shared p ≠ o) :
      (sharedPart (update settings o (some x))).scalars.isSet p =
        settings.shared.scalars.isSet p := by
    have kept := @explicit?_update_of_ne .build settings o (.shared p) apart (some x)
    exact congrArg Option.isSome kept
  have jsx := same .jsx (by rintro rfl; cases textual)
  have development := same .jsxDev (by rintro rfl; cases textual)
  have sideEffects := same .jsxSideEffects (by rintro rfl; cases textual)
  have factory := same .jsxFactory (by rintro rfl; exact other (by decide))
  have fragment := same .jsxFragment (by rintro rfl; exact other (by decide))
  have importSource := same .jsxImportSource (by rintro rfl; exact other (by decide))
  simp only [SharedSettings.configuresJsx, List.any_cons, List.any_nil, jsx, factory, fragment,
    importSource, development, sideEffects]

/-- An empty text that is the first thing given about elements has them compiled as usual, which
else is left to the engine. -/
theorem AlikeButEmpty.jsxPlan_of_unconfigured {a b : BuildSettings}
    (alike : @AlikeButEmpty .build a b) (before : a.shared.configuresJsx = false)
    (after : b.shared.configuresJsx = true) :
    b.shared.jsxPlan =
      .compile { runtime := .classic, development := false, pure := true } := by
  have unset (p : SharedOption)
      (jsx : p ∈ [.jsx, .jsxFactory, .jsxFragment, .jsxImportSource, .jsxDev, .jsxSideEffects]) :
      a.shared.explicit? p = none := by
    have absent := List.any_eq_false.mp before p jsx
    simpa [Slots.isSet, SharedSettings.explicit?] using absent
  have value (p : SharedOption) (other : p.type ≠ .text)
      (jsx : p ∈ [.jsx, .jsxFactory, .jsxFragment, .jsxImportSource, .jsxDev, .jsxSideEffects]) :
      b.shared.value p = OptionFamily.default p := by
    have usual := congrArg (·.getD (OptionFamily.default p)) (unset p jsx)
    exact (alike.sharedValue_eq p other).symm.trans usual
  have mode : b.shared.jsx = .transform := value .jsx (by simp) (by decide)
  have development : b.shared.value .jsxDev = false := value .jsxDev (by simp) (by decide)
  have sideEffects : b.shared.value .jsxSideEffects = false :=
    value .jsxSideEffects (by simp) (by decide)
  have factory : nonEmpty (b.shared.explicit? .jsxFactory) = none :=
    (alike.present_eq (.shared .jsxFactory)).symm.trans
      (congrArg nonEmpty (unset .jsxFactory (by decide)))
  have fragment : nonEmpty (b.shared.explicit? .jsxFragment) = none :=
    (alike.present_eq (.shared .jsxFragment)).symm.trans
      (congrArg nonEmpty (unset .jsxFragment (by decide)))
  simp only [SharedSettings.jsxPlan, after, mode, development, sideEffects, factory, fragment]
  rfl

/-! ## Validation -/

/-- Checks that do not read an option do not notice what it is given. -/
theorem outcome_update_of_not_mem [RegexEngine] {kind : SettingsKind}
    {settings : kind.Settings} {o : kind.ScalarOption} {c : Check kind}
    (unread : Place.scalar o ∉ c.reads) (value : Option (Value o)) :
    c.outcome (update settings o value) = c.outcome settings := by
  refine c.outcome_congr fun p mem => ?_
  have other : p ≠ .scalar o := by
    rintro rfl
    exact unread mem
  exact held_put_of_ne settings other value

/-- The options of which validation asks whether they were given, whatever their text is. -/
def askedWhetherGiven : List (ScalarOption .build) :=
  [.own .outfile, .own .outdir, .shared .jsxImportSource]

/-- Whether validation may treat settings in another way once the option is given. -/
def GivingMatters (settings : BuildSettings) : ScalarOption .build → Prop
  | .own .outfile => settings.own.isSet .outdir = true ∨ settings.write = true
  | .own .outdir => settings.own.isSet .outfile = true ∨ settings.write = true
  | .shared .jsxImportSource => settings.shared.jsx ≠ .automatic
  | _ => False

/-- The texts that checks of builds read. -/
theorem text_of_reads_own {c : BuildCheck} (textual : type o = .text)
    (read : Place.scalar o ∈ c.reads) :
    (c = .oneOutput ∨ c = .placeToWrite) ∧ (o = .own .outfile ∨ o = .own .outdir) := by
  cases c with
  | oneOutput => exact ⟨.inl rfl, by simpa [BuildCheck.reads] using read⟩
  | placeToWrite =>
    obtain rfl | asked : o = .own .write ∨ o = .own .outfile ∨ o = .own .outdir := by
      simpa [BuildCheck.reads] using read
    · cases textual
    · exact ⟨.inr rfl, asked⟩
  | splittingBundles =>
    obtain rfl | rfl : o = .own .splitting ∨ o = .own .bundle := by
      simpa [BuildCheck.reads] using read
    all_goals cases textual
  | splittingFormat =>
    obtain rfl | rfl : o = .own .splitting ∨ o = .shared .format := by
      simpa [BuildCheck.reads] using read
    all_goals cases textual
  | _ => simp [BuildCheck.reads] at read

/-- The texts that shared checks read. -/
theorem text_of_reads_shared {c : SharedCheck} (textual : type o = .text)
    (read : Place.scalar o ∈ (c.reads : List (Place .build))) :
    (c = .mangleProps ∧ o = .shared .mangleProps) ∨
      (c = .reserveProps ∧ o = .shared .reserveProps) ∨
      (c = .importSource ∧ o = .shared .jsxImportSource) := by
  cases c with
  | mangleProps => exact .inl ⟨rfl, by simpa [SharedCheck.reads] using read⟩
  | reserveProps => exact .inr (.inl ⟨rfl, by simpa [SharedCheck.reads] using read⟩)
  | importSource =>
    obtain rfl | rfl : o = .shared .jsxImportSource ∨ o = .shared .jsx := by
      simpa [SharedCheck.reads] using read
    · exact .inr (.inr ⟨rfl, rfl⟩)
    · cases textual
  | _ => simp [SharedCheck.reads] at read

section Validation

variable (textual : type o = .text) (unset : @explicit? .build settings o = none)
  (empty : (type o).isEmpty x = true) (indifferent : ¬ GivingMatters settings o)

include textual indifferent in
/-- Checks of builds that read a text pass before and after it is given. -/
theorem passes_of_reads_own {c : BuildCheck} (read : Place.scalar o ∈ c.reads) :
    c.Passes settings ∧ c.Passes (update settings o (some x)) := by
  obtain ⟨rfl | rfl, rfl | rfl⟩ := text_of_reads_own textual read
  · obtain ⟨noDir, -⟩ := not_or.mp indifferent
    exact ⟨fun both => noDir both.2, fun both => noDir both.2⟩
  · obtain ⟨noFile, -⟩ := not_or.mp indifferent
    exact ⟨fun both => noFile both.1, fun both => noFile both.1⟩
  · obtain ⟨-, noWrite⟩ := not_or.mp indifferent
    exact ⟨fun write => absurd write noWrite, fun _ => .inl rfl⟩
  · obtain ⟨-, noWrite⟩ := not_or.mp indifferent
    exact ⟨fun write => absurd write noWrite, fun _ => .inr rfl⟩

variable [RegexEngine] [RegexEngine.LawfulPatterns]

theorem isRegex_of_empty {pattern : String} (empty : pattern.isEmpty = true) :
    IsRegex (some pattern) := by
  obtain rfl : pattern = "" := by simpa using empty
  intro p given
  obtain rfl := Option.some.inj given
  obtain ⟨program, compiled, -⟩ := RegexEngine.LawfulPatterns.compile_empty
  exact ⟨program, compiled⟩

include textual unset empty indifferent in
/-- Shared checks that read a text pass before and after it is given, if it is empty. -/
theorem passes_of_reads_shared {c : SharedCheck}
    (read : Place.scalar o ∈ (c.reads : List (Place .build))) :
    c.Passes settings.shared ∧ c.Passes (sharedPart (update settings o (some x))) := by
  obtain ⟨rfl, rfl⟩ | ⟨rfl, rfl⟩ | ⟨rfl, rfl⟩ := text_of_reads_shared textual read
  · refine ⟨?_, isRegex_of_empty empty⟩
    have absent : settings.shared.explicit? .mangleProps = none := unset
    rw [SharedCheck.Passes, absent]
    exact patternFault?_eq_none_iff.mp rfl
  · refine ⟨?_, isRegex_of_empty empty⟩
    have absent : settings.shared.explicit? .reserveProps = none := unset
    rw [SharedCheck.Passes, absent]
    exact patternFault?_eq_none_iff.mp rfl
  · have automatic : settings.shared.jsx = .automatic := not_not.mp indifferent
    exact ⟨fun _ => automatic, fun _ => automatic⟩

include textual unset empty indifferent in
theorem validate_update_empty :
    @validate _ .build (update settings o (some x)) = @validate _ .build settings := by
  refine validate_congr fun c => ?_
  by_cases read : Place.scalar o ∈ c.reads
  · have passes : c.Passes settings ∧ c.Passes (update settings o (some x)) := by
      cases c with
      | own c => exact passes_of_reads_own textual indifferent read
      | shared c => exact passes_of_reads_shared textual unset empty indifferent read
    rw [Check.outcome, Check.outcome, if_pos passes.1, if_pos passes.2]
  · exact outcome_update_of_not_mem read _

end Validation

theorem text_of_asked (asked : o ∈ askedWhetherGiven) : type o = .text := by
  simp only [askedWhetherGiven, List.mem_cons, List.not_mem_nil, or_false] at asked
  obtain rfl | rfl | rfl := asked <;> rfl

/-- Validation asks whether the option was given, not what it was given. -/
theorem validate_update_asked [RegexEngine] (asked : o ∈ askedWhetherGiven) (x y : Value o) :
    @validate _ .build (update settings o (some x)) =
      @validate _ .build (update settings o (some y)) := by
  have textual := text_of_asked asked
  refine validate_congr fun c => ?_
  by_cases read : Place.scalar o ∈ c.reads
  · cases c with
    | own c =>
      obtain ⟨rfl | rfl, rfl | rfl⟩ := text_of_reads_own textual read
      all_goals rfl
    | shared c =>
      obtain ⟨rfl, rfl⟩ | ⟨rfl, rfl⟩ | ⟨rfl, rfl⟩ := text_of_reads_shared textual read
      · simp [askedWhetherGiven] at asked
      · simp [askedWhetherGiven] at asked
      · rfl
  · rw [outcome_update_of_not_mem read, outcome_update_of_not_mem read]

end Settings

/-! ## Giving an empty text -/

/-- The plan without its warnings, and without the template that an option decides, if it does. -/
def Plan.setAside (o : ScalarOption .build) (plan : Plan) : Plan :=
  { plan with
    warnings := []
    options := { plan.options with
      entryFilenames := if o = .own .entryNames then none else plan.options.entryFilenames
      chunkFilenames := if o = .own .chunkNames then none else plan.options.chunkFilenames
      assetFilenames := if o = .own .assetNames then none else plan.options.assetFilenames } }

/-- `after` are the settings in which an option was given an empty text that was given nothing
before. -/
structure EmptyAsUnset [RegexEngine] (site : RunSite) (settings : BuildSettings)
    (o : ScalarOption .build) (after : BuildSettings) : Prop where
  validate_eq : ¬ GivingMatters settings o → after.validate = settings.validate
  /-- Where validation asks whether the option was given, the empty text is as good as any. -/
  validate_asked : o ∈ askedWhetherGiven → ∀ text other,
    @set .build settings (OptionFamily.name o) (.text text) = .ok other →
      other.validate = after.validate
  plan_eq : (o ∈ jsxTexts → settings.shared.configuresJsx = true) →
    (Plan.forBuild site.processDir site.disk after site.source).map (Plan.setAside o) =
      (Plan.forBuild site.processDir site.disk settings site.source).map (Plan.setAside o)
  /-- The first option that is given about elements has them compiled as usual. -/
  plan_jsx : o ∈ jsxTexts → settings.shared.configuresJsx = false →
    (Plan.forBuild site.processDir site.disk after site.source).map (Plan.setAside o) =
      (Plan.forBuild site.processDir site.disk settings site.source).map fun plan =>
        { plan.setAside o with options := { (plan.setAside o).options with
            jsx := .compile { runtime := .classic, development := false, pure := true } } }

namespace Settings

theorem set_text {kind : SettingsKind} (settings : kind.Settings) {o : kind.ScalarOption}
    (textual : type o = .text) (text : String) :
    ∃ x : Value o,
      set settings (OptionFamily.name o) (.text text) = .ok (update settings o (some x)) ∧
        (type o).isEmpty x = text.isEmpty := by
  have taken (t : ScalarType) (textual : t = .text) :
      ∃ x, t.ofOptionValue? (.text text) = some x ∧ t.isEmpty x = text.isEmpty := by
    subst textual
    exact ⟨text, rfl, rfl⟩
  obtain ⟨x, takes, size⟩ := taken (type o) textual
  refine ⟨x, ?_, size⟩
  rw [set_name, reading, takes]
  exact congrArg _ (assign_eq settings o x)

section Plans

variable {settings : BuildSettings} {o : ScalarOption .build} {x : Value o}
  (unset : @explicit? .build settings o = none) (empty : (type o).isEmpty x = true)
  {site : RunSite} (settled : Path.clean site.processDir = site.processDir)

include unset empty settled

/-- The plan changes in what it says about elements only. -/
theorem forBuild_update_empty [RegexEngine] {jsx : JsxPlan}
    (elements : (sharedPart (update settings o (some x))).jsxPlan = jsx) :
    (Plan.forBuild site.processDir site.disk (update settings o (some x)) site.source).map
        (Plan.setAside o) =
      (Plan.forBuild site.processDir site.disk settings site.source).map fun plan =>
        { plan.setAside o with options := { (plan.setAside o).options with jsx } } := by
  have alike : @AlikeButEmpty .build settings (update settings o (some x)) :=
    alikeButEmpty_update unset empty
  have template (p : BuildOption) (name : Option (Value p) → Option String) :
      (if o = .own p then none
        else name ((update settings o (some x) : BuildSettings).explicit? p)) =
        if o = .own p then none else name (settings.explicit? p) := by
    split
    next => rfl
    next other =>
      have kept := @explicit?_update_of_ne .build settings o (.own p) (Ne.symm other) (some x)
      exact congrArg name kept
  have entryNames := template .entryNames (·.map (filenameTemplate · ".js"))
  have chunkNames := template .chunkNames (·.map (filenameTemplate · ".js"))
  have assetNames := template .assetNames (·.map (filenameTemplate · "[extname]"))
  rw [Plan.forBuild_eq, Plan.forBuild_eq, ← alike.buildDir_eq settled, ← alike.injections_eq,
    Decoder.map_map, Decoder.map_map]
  congr 1
  funext inject
  rw [alike.ofBuild_eq settled]
  simp only [Plan.setAside, entryNames, chunkNames, assetNames, ← elements]
  rfl

end Plans

end Settings

/-- An empty text counts as nothing, but where validation asks whether an option was given, where
it is the first thing given about elements, and maybe in the template that it is. -/
theorem empty_text_counts_as_unset [RegexEngine] [RegexEngine.LawfulPatterns] (site : RunSite)
    (settled : Path.clean site.processDir = site.processDir) (settings : BuildSettings)
    (o : ScalarOption .build) (textual : type o = .text)
    (unset : @explicit? .build settings o = none) :
    ∃ after, @set .build settings (OptionFamily.name o) (.text "") = .ok after ∧
      EmptyAsUnset site settings o after := by
  obtain ⟨x, taken, empty⟩ := @set_text .build settings o textual ""
  have alike := @alikeButEmpty_update .build settings o unset x empty
  refine ⟨_, taken, ?_⟩
  refine ⟨?validate, ?asked, ?plan, ?jsx⟩
  case validate =>
    intro indifferent
    exact validate_update_empty textual unset empty indifferent
  case asked =>
    intro asked text other given
    obtain ⟨y, set, -⟩ := @set_text .build settings o textual text
    obtain rfl := Except.ok.inj (set.symm.trans given)
    exact validate_update_asked asked y x
  case plan =>
    intro configured
    have elements :
        (sharedPart (update settings o (some x))).jsxPlan = settings.shared.jsxPlan := by
      refine (alike.jsxPlan_eq ?_).symm
      by_cases jsx : o ∈ jsxTexts
      · exact (configured jsx).trans (configuresJsx_update_of_mem jsx).symm
      · exact (configuresJsx_update_of_not_mem textual jsx).symm
    refine (forBuild_update_empty unset empty settled elements).trans ?_
    rw [Plan.forBuild_eq, Decoder.map_map, Decoder.map_map]
    rfl
  case jsx =>
    intro jsx before
    exact forBuild_update_empty unset empty settled
      (alike.jsxPlan_of_unconfigured before (configuresJsx_update_of_mem jsx))

/-- Imports of the source text are resolved from where the build runs, as if no directory was
given. -/
theorem empty_text_counts_as_unset_resolve_dir :
    let site : RunSite := ⟨"/work", Disk.empty, "import './a.js'"⟩
    let settings := BuildSettings.assign {} .absWorkingDir "web/.."
    Path.clean site.processDir = site.processDir ∧
      ∃ after, @set .build settings "resolve_dir" (.text "") = .ok after ∧
        EmptyAsUnset site settings (.own .resolveDir) after := by
  intro site settings
  have settled : Path.clean site.processDir = site.processDir := by decide +kernel
  exact ⟨settled, empty_text_counts_as_unset site settled settings (.own .resolveDir) rfl rfl⟩

/-- Empty texts that are noticed: a file beside the directory of the output, the source of a runtime
for elements that is not in use, and how elements are made where nothing else was said about
them. -/
theorem empty_text_noticed :
    let settings := BuildSettings.assign {} .outdir "dist"
    let file := settings.assign .outfile ""
    let source := settings.mapShared (·.assign .jsxImportSource "")
    let factory := settings.mapShared (·.assign .jsxFactory "")
    let elements (settings : BuildSettings) :=
      (Plan.forBuild "/work" Disk.empty settings "").map (·.options.jsx)
    settings.own.isSet .outfile = false ∧ settings.shared.configuresJsx = false ∧
      @set .build settings "outfile" (.text "") = .ok file ∧
      @set .build settings "jsx_import_source" (.text "") = .ok source ∧
      @set .build settings "jsx_factory" (.text "") = .ok factory ∧
      settings.validate = .ok () ∧
      file.validate = .error (.conflict "cannot use both 'outfile' and 'outdir'"
        (some "Use 'outfile' for a single output file or 'outdir' for several")) ∧
      source.validate = .error (.conflict
        "'jsx_import_source' only applies to the automatic JSX runtime"
        (some "Set 'jsx' to 'automatic'")) ∧
      elements settings = .ok .engineDefault ∧
      elements factory =
        .ok (.compile { runtime := .classic, development := false, pure := true }) := by
  intro settings file source factory elements
  exact ⟨rfl, rfl, by decide +kernel, by decide +kernel, by decide +kernel, rfl, rfl, rfl, rfl,
    rfl⟩

end BundleHost
