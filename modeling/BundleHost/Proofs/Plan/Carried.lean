import BundleHost.Proofs.Plan.Ignored
import BundleHost.Proofs.Text.Split

/-!
# Lists and maps in a plan

A plan takes over the lists and maps that the engine knows, with all their entries and in their
order. The one exception are the names of functions without effects: they belong to how code without
use is dropped, and a plan that keeps such code has no place for them. The warning of the plan never
names any of these lists and maps.

## Main statements

* `carries_iff` — when a plan has a list or map.
* `lists_carried` — what becomes of lists and maps that are not empty.
* `pure_names_dropped` — names of functions that are neither in the plan nor in a warning.
-/

namespace BundleHost

open SettingsKind OptionFamily Settings

/-! ## What a plan shows of settings -/

/-- The targets as a list. -/
def TargetList.toList : TargetList → List String
  | .unrestricted => []
  | .one target => [target]
  | .many targets => targets

@[simp]
theorem TargetList.toList_ofList (targets : List String) : (ofList targets).toList = targets := by
  match targets with
  | [] => rfl
  | [_] => rfl
  | _ :: _ :: _ => rfl

/-- A runtime as the engine writes it. -/
def EngineVersion.target (engine : EngineVersion) : String :=
  Enumeration.name engine.name ++ engine.version

/-- The pattern as it is written in settings. -/
def ExternalPattern.text : ExternalPattern → String
  | .package name => String.ofList name
  | .wildcard before after => String.ofList (before ++ '*' :: after)

@[simp]
theorem ExternalPattern.text_ofText (pattern : String) : (ofText pattern).text = pattern := by
  unfold ofText
  split
  next before after split =>
    obtain ⟨_, written⟩ := Text.splitFirst?_eq_some_iff.mp split
    rw [text, ← written, String.ofList_toList]
  next => rw [text, String.ofList_toList]

namespace Settings

variable {kind : SettingsKind}

/-- The lists and maps that a plan has a place for. -/
def carriable : (kind : SettingsKind) → List (Collection kind)
  | .build => [.define, .pureNames, .dropLabels, .engines, .external, .entryPoints]
  | .transform => [.define, .pureNames, .dropLabels, .engines]
  | .shared => [.define, .pureNames, .dropLabels, .engines]

/-- The plan has all entries of a list or map in their order. -/
def Carries (plan : Plan) : {kind : SettingsKind} → kind.Settings → kind.Collection → Prop
  | _, settings, .define => plan.options.define = (sharedPart settings).define
  | _, settings, .pureNames =>
    ∃ shake, plan.options.shake = some shake ∧ shake.pureNames = (sharedPart settings).pureNames
  | _, settings, .dropLabels => plan.options.dropLabels = (sharedPart settings).dropLabels
  | _, settings, .engines =>
    (sharedPart settings).engines.map EngineVersion.target <:+ plan.options.targets.toList
  | .build, settings, .external =>
    plan.externals.patterns.map ExternalPattern.text = settings.external
  | .build, settings, .entryPoints => plan.entryPoints = settings.entryPoints
  | _, _, _ => False

/-- Code without use is dropped: because it was asked for, or because the run bundles. -/
def Shakes (settings : kind.Settings) (plan : Plan) : Prop :=
  (sharedPart settings).treeShaking = .enabled ∨
    (sharedPart settings).treeShaking = .whenBundling ∧ plan.bundling = true

/-! ## What a plan has -/

theorem exists_ofBuild [RegexEngine] {site : RunSite} {settings : SettingsKind.build.Settings}
    {plan : Plan} (planned : plan? site settings = some (.ok plan)) :
    ∃ inject, plan = Plan.ofBuild site settings inject := by
  have built : Plan.forBuild site.processDir site.disk settings site.source = .ok plan :=
    Option.some.inj planned
  rw [Plan.forBuild_eq] at built
  obtain ⟨inject, _, rfl⟩ := Decoder.map_eq_ok_iff.mp built
  exact ⟨inject, rfl⟩

/-- The engine's options that are made of lists and maps of the shared part. -/
theorem options_of_plan? [RegexEngine] {site : RunSite} {settings : kind.Settings} {plan : Plan}
    (planned : plan? site settings = some (.ok plan)) :
    plan.options.define = (sharedPart settings).define ∧
      plan.options.dropLabels = (sharedPart settings).dropLabels ∧
      plan.options.targets = .ofList (sharedPart settings).targetNames ∧
      plan.options.shake = (sharedPart settings).shakePlan plan.bundling := by
  cases kind with
  | build =>
    obtain ⟨inject, rfl⟩ := exists_ofBuild planned
    exact ⟨rfl, rfl, rfl, rfl⟩
  | transform =>
    obtain rfl := Except.ok.inj (Option.some.inj planned)
    exact ⟨rfl, rfl, rfl, rfl⟩
  | shared => cases planned

theorem shakePlan_of_shakes {settings : kind.Settings} {plan : Plan}
    (shakes : Shakes settings plan) :
    ∃ annotations, (sharedPart settings).shakePlan plan.bundling =
      some ⟨annotations, (sharedPart settings).pureNames⟩ := by
  unfold SharedSettings.shakePlan
  rcases shakes with mode | ⟨mode, bundling⟩
  · rw [mode]
    exact ⟨_, rfl⟩
  · rw [mode, bundling]
    exact ⟨_, rfl⟩

theorem shakePlan_of_not_shakes {settings : kind.Settings} {plan : Plan}
    (keeps : ¬ Shakes settings plan) : (sharedPart settings).shakePlan plan.bundling = none := by
  unfold Shakes at keeps
  unfold SharedSettings.shakePlan
  cases mode : (sharedPart settings).treeShaking with
  | disabled => rfl
  | enabled => exact absurd (.inl mode) keeps
  | whenBundling =>
    cases bundling : plan.bundling with
    | false => rfl
    | true => exact absurd (.inr ⟨mode, bundling⟩) keeps

theorem carries_pureNames_iff [RegexEngine] {site : RunSite} {settings : kind.Settings}
    {plan : Plan} (planned : plan? site settings = some (.ok plan)) :
    Carries plan settings .pureNames ↔ Shakes settings plan := by
  obtain ⟨_, _, _, shake⟩ := options_of_plan? planned
  change (∃ shake, _ ∧ _) ↔ _
  rw [shake]
  by_cases shakes : Shakes settings plan
  · obtain ⟨annotations, given⟩ := shakePlan_of_shakes shakes
    rw [given]
    exact iff_of_true ⟨_, rfl, rfl⟩ shakes
  · rw [shakePlan_of_not_shakes shakes]
    exact iff_of_false (by simp) shakes

theorem carries_engines [RegexEngine] {site : RunSite} {settings : kind.Settings} {plan : Plan}
    (planned : plan? site settings = some (.ok plan)) : Carries plan settings .engines := by
  obtain ⟨_, _, targets, _⟩ := options_of_plan? planned
  change _ <:+ plan.options.targets.toList
  rw [targets, TargetList.toList_ofList, SharedSettings.targetNames]
  exact List.suffix_append _ _

theorem carries_iff [RegexEngine] {site : RunSite} {settings : kind.Settings} {plan : Plan}
    (planned : plan? site settings = some (.ok plan)) {c : kind.Collection}
    (place : c ∈ carriable kind) :
    Carries plan settings c ↔ (c = .pureNames → Shakes settings plan) := by
  by_cases pure : c = .pureNames
  · subst pure
    rw [carries_pureNames_iff planned]
    exact ⟨fun shakes _ => shakes, fun shakes => shakes rfl⟩
  · refine iff_of_true ?_ fun same => absurd same pure
    obtain ⟨define, dropLabels, _, _⟩ := options_of_plan? planned
    match kind, c with
    | _, .define => exact define
    | _, .dropLabels => exact dropLabels
    | _, .engines => exact carries_engines planned
    | _, .pureNames => exact absurd rfl pure
    | .build, .external =>
      obtain ⟨inject, rfl⟩ := exists_ofBuild planned
      simp [Carries, Plan.ofBuild, ExternalPolicy.forBuild, Function.comp_def]
    | .build, .entryPoints =>
      obtain ⟨inject, rfl⟩ := exists_ofBuild planned
      rfl
    | .build, .inject => simp [carriable] at place
    | kind, .logOverride => cases kind <;> simp [carriable] at place
    | kind, .supported => cases kind <;> simp [carriable] at place

/-- The warning names no list or map that the plan has a place for. -/
theorem notMem_ignored_of_carriable {settings : kind.Settings} {c : kind.Collection}
    (place : c ∈ carriable kind) : c.name ∉ ignored settings := by
  intro listed
  have known : ∀ c ∈ carriable kind, c.name ∈ mappedOptions kind := by
    cases kind <;> decide
  have able : ∀ c ∈ carriable kind, c.name ∉ rejectableOptions := by
    cases kind <;> decide
  rcases (mem_ignored_iff.mp listed).2 with (⟨name, _⟩ | ⟨name, _⟩) | ⟨_, unknown⟩
  · exact able c place (by simp [name, rejectableOptions])
  · exact able c place (by simp [name, rejectableOptions])
  · exact unknown (known c place)

/-- What becomes of the lists and maps of settings that a plan has a place for. -/
structure CarriesLists (settings : kind.Settings) (plan : Plan) : Prop where
  warnings_eq :
    plan.warnings = warningOfIgnored settings ++ (sharedPart settings).minifyWarning
  /-- No warning names them. -/
  unnamed : ∀ c ∈ carriable kind, c.name ∉ ignored settings
  /-- The plan has all their entries, unless they are names of functions without effects and code
  without use is kept. -/
  carried_iff : ∀ c ∈ carriable kind,
    Carries plan settings c ↔ (c = .pureNames → Shakes settings plan)

theorem lists_carried [RegexEngine] {site : RunSite} {settings : kind.Settings} {plan : Plan}
    (planned : plan? site settings = some (.ok plan)) : CarriesLists settings plan where
  warnings_eq := by rw [warnings_of_plan? planned, Settings.warnings_eq]
  unnamed _ := notMem_ignored_of_carriable
  carried_iff _ place := carries_iff planned place

/-- A build that bundles takes over the names of functions without effects. -/
theorem lists_carried_bundling :
    let site : RunSite := ⟨"/", .empty, "x();"⟩
    let settings : SettingsKind.build.Settings := Edit.run
      [.set "bundle" (.bool true), .add .pureNames "console.log", .add .external "lib*",
        .set "target" (.text "es2018"), .add .engines ⟨.node, "16"⟩] {}
    ∃ plan, plan? site settings = some (.ok plan) ∧ CarriesLists settings plan :=
  ⟨_, rfl, lists_carried rfl⟩

/-- A list or map is named in a warning, or the plan has all its entries. -/
def Accounts (plan : Plan) (settings : kind.Settings) (c : kind.Collection) : Prop :=
  (∃ names, c.name ∈ names ∧ .ofIgnored names ∈ plan.warnings) ∨ Carries plan settings c

/-- A transform keeps code without use by default. Names of functions without effects that it is
given are neither in its plan nor in a warning. -/
theorem pure_names_dropped :
    let site : RunSite := ⟨"/", .empty, "console.log(1);"⟩
    let settings : SettingsKind.transform.Settings := Edit.run [.add .pureNames "console.log"] {}
    ∃ plan, plan? site settings = some (.ok plan) ∧ isFilled settings .pureNames = true ∧
      ¬ Accounts plan settings .pureNames := by
  intro site settings
  let plan := Plan.forTransform site.processDir settings site.source
  have silent : plan.warnings = [] := by decide +kernel
  refine ⟨plan, rfl, rfl, ?_⟩
  rintro (⟨names, _, warned⟩ | ⟨shake, given, _⟩)
  · rw [silent] at warned
    cases warned
  · cases given

end Settings

end BundleHost
