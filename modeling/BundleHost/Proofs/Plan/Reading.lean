import BundleHost.Plan.Basic
import BundleHost.Proofs.Decoder
import BundleHost.Proofs.Settings.Given

/-!
# What a plan reads of settings

A plan is made of the options that the engine knows. Of comments and of the language level it reads
no more than what the engine can take. Settings that agree on all this have plans that agree but for
their warnings.

## Main statements

* `forBuild_eq` — a build has a plan if the files to inject can be read.
* `Alike.plan?_eq_ok` — the plans of settings that agree.
-/

namespace BundleHost

open SettingsKind OptionFamily Settings

/-- Where and on what a run takes place. -/
structure RunSite where
  processDir : String
  disk : Disk
  source : String

/-- What the files to inject give to all modules. -/
def BuildSettings.injections [RegexEngine] (settings : BuildSettings) (disk : Disk)
    (cwd : String) : Except RunError (Option (List Injection)) :=
  if settings.inject.isEmpty then .ok none
  else (injectFiles disk (settings.inject.map (Path.join cwd))).map some

namespace Plan

/-- The directory in which a build runs. -/
def buildDir (site : RunSite) (settings : BuildSettings) : String :=
  directory site.processDir (settings.explicit? .absWorkingDir)

/-- The plan of a build when the files to inject are read. -/
def ofBuild (site : RunSite) (settings : BuildSettings) (inject : Option (List Injection)) :
    Plan where
  entry :=
    { source := site.source, loader := settings.loader
      resolveDir := directory (buildDir site settings) (settings.explicit? .resolveDir) }
  entryPoints := settings.entryPoints
  options :=
    { settings.shared.engineOptions
        (OutputFormat.forBuild settings.shared.format settings.shared.platform)
        (buildDir site settings) settings.bundle with
      inlineDynamicImports := (settings.explicit? .splitting).map (!·)
      followSymlinks := if settings.preserveSymlinks then some false else none
      tsconfig := nonEmpty (settings.explicit? .tsconfig)
      entryFilenames := (settings.explicit? .entryNames).map (filenameTemplate · ".js")
      chunkFilenames := (settings.explicit? .chunkNames).map (filenameTemplate · ".js")
      assetFilenames := (settings.explicit? .assetNames).map (filenameTemplate · "[extname]")
      inject }
  externals := .forBuild settings
  banner := nonEmpty (settings.shared.explicit? .banner)
  footer := nonEmpty (settings.shared.explicit? .footer)
  sourcefile := nonEmpty (settings.explicit? .sourcefile)
  bundling := settings.bundle
  warnings := settingsWarnings settings.shared settings.explicitOptions mappedBuildOptions

theorem forBuild_eq [RegexEngine] (site : RunSite) (settings : BuildSettings) :
    forBuild site.processDir site.disk settings site.source =
      (settings.injections site.disk (buildDir site settings)).map (ofBuild site settings) := by
  simp only [forBuild, BuildSettings.extendOptions, BuildSettings.injections, buildDir]
  split
  · rfl
  · cases injectFiles site.disk _ <;> rfl

end Plan

namespace Settings

variable {kind : SettingsKind}

/-- The plan of a run with settings; settings for no particular kind of run have none. -/
def plan? [RegexEngine] (site : RunSite) :
    {kind : SettingsKind} → kind.Settings → Option (Except RunError Plan)
  | .build, settings => some (Plan.forBuild site.processDir site.disk settings site.source)
  | .transform, settings => some (.ok (Plan.forTransform site.processDir settings site.source))
  | .shared, _ => none

/-- The options of one kind of run only that the engine knows. -/
def mappedOwnOptions : SettingsKind → List String
  | .build => mappedBuildOptions
  | .transform => mappedTransformOptions
  | .shared => []

/-- The options of a kind of run that the engine knows. -/
def mappedOptions (kind : SettingsKind) : List String :=
  mappedSharedOptions ++ mappedOwnOptions kind

/-- The warnings of a plan. -/
def warnings (settings : kind.Settings) : List Diagnostic :=
  Plan.settingsWarnings (sharedPart settings) (explicitOptions settings) (mappedOwnOptions kind)

/-- The options that may hold a value which the engine cannot take. -/
def rejectableOptions : List String := ["legal_comments", "target"]

/-- The settings agree on what the engine is told. -/
structure Alike (a b : kind.Settings) : Prop where
  held_eq (p : Place kind) :
    p.name ∈ mappedOptions kind → p.name ∉ rejectableOptions → held a p = held b p
  comments_eq : CommentRule.ofSetting (sharedPart a).legalComments =
    CommentRule.ofSetting (sharedPart b).legalComments
  targetNames_eq : (sharedPart a).targetNames = (sharedPart b).targetNames

/-! ## Shared options -/

namespace Alike

section Shared

variable {a b : kind.Settings} (alike : Alike a b)

include alike

theorem shared_eq (o : SharedOption) (known : o.name ∈ mappedSharedOptions)
    (able : o.name ∉ rejectableOptions) :
    (sharedPart a).explicit? o = (sharedPart b).explicit? o :=
  alike.held_eq (.scalar (.shared o)) (List.mem_append_left _ known) able

theorem value_eq (o : SharedOption) (known : o.name ∈ mappedSharedOptions)
    (able : o.name ∉ rejectableOptions) : (sharedPart a).value o = (sharedPart b).value o :=
  congrArg (fun value => value.getD (OptionFamily.default o)) (alike.shared_eq o known able)

theorem isSet_eq (o : SharedOption) (known : o.name ∈ mappedSharedOptions)
    (able : o.name ∉ rejectableOptions) :
    (sharedPart a).scalars.isSet o = (sharedPart b).scalars.isSet o :=
  congrArg Option.isSome (alike.shared_eq o known able)

theorem minifyFlags_eq :
    (sharedPart a).minifyWhitespace = (sharedPart b).minifyWhitespace ∧
      (sharedPart a).minifyIdentifiers = (sharedPart b).minifyIdentifiers ∧
      (sharedPart a).minifySyntax = (sharedPart b).minifySyntax :=
  ⟨alike.value_eq .minifyWhitespace (by decide) (by decide),
    alike.value_eq .minifyIdentifiers (by decide) (by decide),
    alike.value_eq .minifySyntax (by decide) (by decide)⟩

theorem collections_eq :
    (sharedPart a).define = (sharedPart b).define ∧
      (sharedPart a).dropLabels = (sharedPart b).dropLabels ∧
      (sharedPart a).pureNames = (sharedPart b).pureNames := by
  have known (c : kind.Collection) (known : c.name ∈ mappedSharedOptions)
      (able : c.name ∉ rejectableOptions) : content a c = content b c :=
    alike.held_eq (.collection c) (List.mem_append_left _ known) able
  refine ⟨known .define ?_ ?_, known .dropLabels ?_ ?_, known .pureNames ?_ ?_⟩ <;>
    simp [Collection.name, mappedSharedOptions, rejectableOptions]

theorem minifyWarning_eq : (sharedPart a).minifyWarning = (sharedPart b).minifyWarning := by
  obtain ⟨whitespace, identifiers, syntaxes⟩ := alike.minifyFlags_eq
  unfold SharedSettings.minifyWarning SharedSettings.minifyAny
  rw [whitespace, identifiers, syntaxes]

theorem shakePlan_eq (bundling : Bool) :
    (sharedPart a).shakePlan bundling = (sharedPart b).shakePlan bundling := by
  have mode : (sharedPart a).treeShaking = (sharedPart b).treeShaking :=
    alike.value_eq .treeShaking (by decide) (by decide)
  have annotations := alike.value_eq .ignoreAnnotations (by decide) (by decide)
  obtain ⟨_, _, pureNames⟩ := alike.collections_eq
  unfold SharedSettings.shakePlan
  rw [mode, annotations, pureNames]

theorem jsxPlan_eq : (sharedPart a).jsxPlan = (sharedPart b).jsxPlan := by
  have configures : (sharedPart a).configuresJsx = (sharedPart b).configuresJsx := by
    simp (disch := decide) only [SharedSettings.configuresJsx, List.any_cons, List.any_nil,
      alike.isSet_eq]
  have mode : (sharedPart a).jsx = (sharedPart b).jsx :=
    alike.value_eq .jsx (by decide) (by decide)
  have development := alike.value_eq .jsxDev (by decide) (by decide)
  have sideEffects := alike.value_eq .jsxSideEffects (by decide) (by decide)
  have importSource := alike.shared_eq .jsxImportSource (by decide) (by decide)
  have factory := alike.shared_eq .jsxFactory (by decide) (by decide)
  have fragment := alike.shared_eq .jsxFragment (by decide) (by decide)
  unfold SharedSettings.jsxPlan
  rw [configures, mode, development, sideEffects, importSource, factory, fragment]

theorem engineOptions_eq (format : OutputFormat) (cwd : String) (bundling : Bool) :
    (sharedPart a).engineOptions format cwd bundling =
      (sharedPart b).engineOptions format cwd bundling := by
  have platform : (sharedPart a).platform = (sharedPart b).platform :=
    alike.value_eq .platform (by decide) (by decide)
  have sourcemap : (sharedPart a).sourcemap = (sharedPart b).sourcemap :=
    alike.value_eq .sourcemap (by decide) (by decide)
  obtain ⟨whitespace, identifiers, syntaxes⟩ := alike.minifyFlags_eq
  have globalName := alike.shared_eq .globalName (by decide) (by decide)
  have keepNames := alike.shared_eq .keepNames (by decide) (by decide)
  obtain ⟨define, dropLabels, _⟩ := alike.collections_eq
  unfold SharedSettings.engineOptions SharedSettings.minifyAny
  rw [platform, sourcemap, whitespace, identifiers, syntaxes, globalName, keepNames, define,
    dropLabels, alike.shakePlan_eq, alike.jsxPlan_eq, alike.comments_eq, alike.targetNames_eq]

end Shared

/-! ## Plans -/

section Transform

variable {a b : TransformSettings} (alike : @Alike .transform a b)

include alike

theorem forTransform_eq (site : RunSite) :
    Plan.forTransform site.processDir b site.source =
      { Plan.forTransform site.processDir a site.source with
        warnings := @warnings .transform b } := by
  have format : a.shared.format = b.shared.format := alike.value_eq .format (by decide) (by decide)
  have options (format : OutputFormat) (cwd : String) (bundling : Bool) :
      a.shared.engineOptions format cwd bundling = b.shared.engineOptions format cwd bundling :=
    alike.engineOptions_eq format cwd bundling
  have banner : a.shared.explicit? .banner = b.shared.explicit? .banner :=
    alike.shared_eq .banner (by decide) (by decide)
  have footer : a.shared.explicit? .footer = b.shared.explicit? .footer :=
    alike.shared_eq .footer (by decide) (by decide)
  have own : a.own = b.own := Slots.ext fun o =>
    alike.held_eq (.scalar (.own o)) (by cases o <;> decide) (by cases o <;> decide)
  simp only [Plan.forTransform, TransformSettings.loader, format, options, banner, footer, own]
  rfl

end Transform

section Build

variable {a b : BuildSettings} (alike : @Alike .build a b)

include alike

theorem own_eq (o : BuildOption) (known : o.name ∈ mappedOptions .build)
    (able : o.name ∉ rejectableOptions) : a.explicit? o = b.explicit? o :=
  alike.held_eq (.scalar (.own o)) known able

theorem ownValue_eq (o : BuildOption) (known : o.name ∈ mappedOptions .build)
    (able : o.name ∉ rejectableOptions) : a.value o = b.value o :=
  congrArg (fun value => value.getD (OptionFamily.default o)) (alike.own_eq o known able)

theorem buildDir_eq (site : RunSite) : Plan.buildDir site a = Plan.buildDir site b := by
  unfold Plan.buildDir
  rw [alike.own_eq .absWorkingDir (by decide) (by decide)]

theorem injections_eq [RegexEngine] (disk : Disk) (cwd : String) :
    a.injections disk cwd = b.injections disk cwd := by
  have inject : a.inject = b.inject :=
    alike.held_eq (.collection .inject) (by decide) (by decide)
  unfold BuildSettings.injections
  rw [inject]

theorem externals_eq : ExternalPolicy.forBuild a = ExternalPolicy.forBuild b := by
  have bundle : a.bundle = b.bundle := alike.ownValue_eq .bundle (by decide) (by decide)
  have packages : a.packages = b.packages := alike.ownValue_eq .packages (by decide) (by decide)
  have external : a.external = b.external :=
    alike.held_eq (.collection .external) (by decide) (by decide)
  unfold ExternalPolicy.forBuild
  rw [bundle, packages, external]

theorem ofBuild_eq (site : RunSite) (inject : Option (List Injection)) :
    Plan.ofBuild site b inject =
      { Plan.ofBuild site a inject with warnings := @warnings .build b } := by
  have format : a.shared.format = b.shared.format := alike.value_eq .format (by decide) (by decide)
  have platform : a.shared.platform = b.shared.platform :=
    alike.value_eq .platform (by decide) (by decide)
  have options (format : OutputFormat) (cwd : String) (bundling : Bool) :
      a.shared.engineOptions format cwd bundling = b.shared.engineOptions format cwd bundling :=
    alike.engineOptions_eq format cwd bundling
  have banner : a.shared.explicit? .banner = b.shared.explicit? .banner :=
    alike.shared_eq .banner (by decide) (by decide)
  have footer : a.shared.explicit? .footer = b.shared.explicit? .footer :=
    alike.shared_eq .footer (by decide) (by decide)
  have loader : a.loader = b.loader := alike.ownValue_eq .loader (by decide) (by decide)
  have bundle : a.bundle = b.bundle := alike.ownValue_eq .bundle (by decide) (by decide)
  have symlinks : a.preserveSymlinks = b.preserveSymlinks :=
    alike.ownValue_eq .preserveSymlinks (by decide) (by decide)
  have entryPoints : a.entryPoints = b.entryPoints :=
    alike.held_eq (.collection .entryPoints) (by decide) (by decide)
  simp (disch := decide) only [Plan.ofBuild, alike.buildDir_eq, alike.externals_eq, alike.own_eq,
    format, platform, options, banner, footer, loader, bundle, symlinks, entryPoints]
  rfl

theorem forBuild_eq_ok [RegexEngine] {site : RunSite} {plan : Plan}
    (planned : Plan.forBuild site.processDir site.disk a site.source = .ok plan) :
    Plan.forBuild site.processDir site.disk b site.source =
      .ok { plan with warnings := @warnings .build b } := by
  rw [Plan.forBuild_eq, alike.buildDir_eq, alike.injections_eq] at planned
  obtain ⟨inject, read, rfl⟩ := Decoder.map_eq_ok_iff.mp planned
  rw [Plan.forBuild_eq, read, ← alike.ofBuild_eq]
  rfl

end Build

/-- Settings that agree have plans that agree but for their warnings. -/
theorem plan?_eq_ok [RegexEngine] {a b : kind.Settings} (alike : Alike a b) {site : RunSite}
    {plan : Plan} (planned : plan? site a = some (.ok plan)) :
    plan? site b = some (.ok { plan with warnings := warnings b }) := by
  cases kind with
  | build => exact congrArg some (alike.forBuild_eq_ok (Option.some.inj planned))
  | transform =>
    obtain rfl : Plan.forTransform site.processDir a site.source = plan :=
      Except.ok.inj (Option.some.inj planned)
    rw [← alike.forTransform_eq site]
    rfl
  | shared => cases planned

end Alike

end Settings

end BundleHost
