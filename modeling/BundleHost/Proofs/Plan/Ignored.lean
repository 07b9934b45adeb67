import BundleHost.Proofs.Plan.Reading
import BundleHost.Regex.Engine

/-!
# Options without effect

An option is ignored if its value is one that the engine cannot take, or if neither the host nor the
engine knows it. The warning of a plan lists the ignored ones among the explicit options. What is
listed has no effect: without it, and without what only concerns the presentation of diagnostics,
the plan is the same but for this warning.

## Main statements

* `mem_ignored_iff` — what is listed.
* `alike_withdraw_idle` — what is listed is not read.
* `ignored_without_effect` — the warning, and the plan without what it lists.
-/

namespace BundleHost

open SettingsKind OptionFamily Settings

/-- The option holds a value that the engine cannot take. -/
def SharedSettings.Rejects (settings : SharedSettings) (name : String) : Prop :=
  name = "legal_comments" ∧ settings.legalComments ∈ [.eof, .linked, .external] ∨
    name = "target" ∧ settings.target = .es5

theorem SharedSettings.mem_rejected_iff {settings : SharedSettings} {name : String} :
    name ∈ settings.rejected ↔ settings.Rejects name := by
  have comments : settings.rejectsComments = true ↔
      settings.legalComments ∈ [.eof, .linked, .external] := by
    simp [SharedSettings.rejectsComments, or_assoc]
  have target : settings.rejectsTarget = true ↔ settings.target = .es5 := by
    simp [SharedSettings.rejectsTarget]
  rw [SharedSettings.rejected, List.mem_append, Rejects, ← comments, ← target]
  cases settings.rejectsComments <;> cases settings.rejectsTarget <;> simp

namespace Settings

variable {kind : SettingsKind}

/-- The option has no effect: its value is rejected, or it is known to nobody. -/
def IsIgnored (settings : kind.Settings) (name : String) : Prop :=
  (sharedPart settings).Rejects name ∨
    name ∉ presentationOptions ∧ name ∉ mappedOptions kind

/-- The options that the warning lists. -/
def ignored (settings : kind.Settings) : List String :=
  ignoredOptions (explicitOptions settings) (mappedOwnOptions kind) (sharedPart settings).rejected

theorem mem_ignored_iff {settings : kind.Settings} {name : String} :
    name ∈ ignored settings ↔ name ∈ explicitOptions settings ∧ IsIgnored settings name := by
  simp [ignored, ignoredOptions, IsIgnored, mappedOptions, SharedSettings.mem_rejected_iff,
    and_assoc]

/-! ## The warning -/

/-- The warning about ignored options, if there are any. It names all of them, and no place. -/
def warningOfIgnored (settings : kind.Settings) : List Diagnostic :=
  if ignored settings = [] then []
  else
    [{ kind := .unsupportedOption, severity := .warning
       message := "options ignored by this engine: " ++
         String.intercalate ", " (ignored settings) }]

/-- The warning lists options as ignored. -/
def ListsIgnored (warning : Diagnostic) : Prop :=
  warning.kind = .unsupportedOption ∧
    ∃ names, warning.message = "options ignored by this engine: " ++ String.intercalate ", " names

theorem ignoredWarning_eq (given mapped rejected : List String) :
    ignoredWarning given mapped rejected =
      if ignoredOptions given mapped rejected = [] then []
      else [.ofIgnored (ignoredOptions given mapped rejected)] := by
  unfold ignoredWarning
  cases ignoredOptions given mapped rejected <;> rfl

theorem warnings_eq (settings : kind.Settings) :
    warnings settings = warningOfIgnored settings ++ (sharedPart settings).minifyWarning := by
  rw [warnings, Plan.settingsWarnings, ignoredWarning_eq, Diagnostic.ofIgnored_eq]
  rfl

theorem warnings_of_plan? [RegexEngine] {site : RunSite} {settings : kind.Settings} {plan : Plan}
    (planned : plan? site settings = some (.ok plan)) : plan.warnings = warnings settings := by
  have again := Alike.plan?_eq_ok ⟨fun _ _ _ => rfl, rfl, rfl⟩ planned
  rw [planned] at again
  exact congrArg Plan.warnings (Except.ok.inj (Option.some.inj again))

/-- The warning about minifying is none about ignored options. -/
theorem not_listsIgnored_of_mem_minifyWarning {settings : SharedSettings} {warning : Diagnostic}
    (found : warning ∈ settings.minifyWarning) : ¬ ListsIgnored warning := by
  rintro ⟨-, names, text⟩
  unfold SharedSettings.minifyWarning at found
  split at found
  · obtain rfl := List.mem_singleton.mp found
    have first := congrArg (fun text => text.toList.head?) text
    simp [Diagnostic.warning] at first
  · cases found

theorem exists_listsIgnored_iff (settings : kind.Settings) :
    (∃ warning ∈ warnings settings, ListsIgnored warning) ↔
      ∃ name ∈ explicitOptions settings, IsIgnored settings name := by
  simp only [← mem_ignored_iff, warnings_eq, List.mem_append]
  constructor
  · rintro ⟨warning, found | found, lists⟩
    · unfold warningOfIgnored at found
      split at found
      · cases found
      · exact List.exists_mem_of_ne_nil _ ‹_›
    · exact absurd lists (not_listsIgnored_of_mem_minifyWarning found)
  · rintro ⟨name, listed⟩
    rw [warningOfIgnored, if_neg (List.ne_nil_of_mem listed)]
    exact ⟨_, .inl (List.mem_singleton_self _), rfl, ignored settings, rfl⟩

/-! ## Without the ignored options -/

/-- What can be taken back without changing what the engine is told. -/
def idle (settings : kind.Settings) : List String := ignored settings ++ presentationOptions

/-- An option that the engine knows is idle only for its value. -/
theorem rejects_of_mem_idle {settings : kind.Settings} {name : String}
    (known : name ∈ mappedOptions kind) (idle : name ∈ idle settings) :
    (sharedPart settings).Rejects name := by
  rcases List.mem_append.mp idle with listed | presented
  · rcases (mem_ignored_iff.mp listed).2 with rejects | ⟨_, unknown⟩
    · exact rejects
    · exact absurd known unknown
  · have apart : ∀ name ∈ presentationOptions, name ∉ mappedOptions kind := by
      cases kind <;> decide
    exact absurd known (apart name presented)

theorem value_withdraw (settings : kind.Settings) (names : List String) (o : SharedOption) :
    (sharedPart (withdraw settings names)).value o =
      if o.name ∈ names then OptionFamily.default o else (sharedPart settings).value o := by
  have held := held_withdraw settings names (.scalar (.shared o))
  rw [held_empty_scalar] at held
  change ((sharedPart (withdraw settings names)).scalars.explicit? o).getD _ = _
  rw [show (sharedPart (withdraw settings names)).scalars.explicit? o = _ from held]
  change (if o.name ∈ names then none else _ : Option _).getD _ = _
  split <;> rfl

/-- Where a value is taken back that the engine knows, it could not take it. -/
theorem value_withdraw_idle (settings : kind.Settings) (o : SharedOption)
    (known : o.name ∈ mappedSharedOptions) :
    (sharedPart (withdraw settings (idle settings))).value o = (sharedPart settings).value o ∨
      (sharedPart settings).Rejects o.name ∧
        (sharedPart (withdraw settings (idle settings))).value o = OptionFamily.default o := by
  rw [value_withdraw]
  by_cases idle : o.name ∈ idle settings
  · rw [if_pos idle]
    exact .inr ⟨rejects_of_mem_idle (List.mem_append_left _ known) idle, rfl⟩
  · rw [if_neg idle]
    exact .inl rfl

theorem comments_withdraw_idle (settings : kind.Settings) :
    CommentRule.ofSetting (sharedPart (withdraw settings (idle settings))).legalComments =
      CommentRule.ofSetting (sharedPart settings).legalComments := by
  rcases value_withdraw_idle settings .legalComments (by decide) with kept | ⟨rejects, usual⟩
  · exact congrArg CommentRule.ofSetting kept
  · have usual : (sharedPart (withdraw settings (idle settings))).legalComments =
        .platformDefault := usual
    rw [usual]
    rcases rejects with ⟨_, placed⟩ | ⟨other, _⟩
    · simp only [List.mem_cons, List.not_mem_nil, or_false] at placed
      rcases placed with placed | placed | placed <;> rw [placed] <;> rfl
    · simp [SharedOption.name] at other

theorem held_withdraw_idle (settings : kind.Settings) (p : Place kind)
    (known : p.name ∈ mappedOptions kind) (able : p.name ∉ rejectableOptions) :
    held (withdraw settings (idle settings)) p = held settings p := by
  rw [held_withdraw, if_neg]
  intro idle
  rcases rejects_of_mem_idle known idle with ⟨name, _⟩ | ⟨name, _⟩
  · simp [name, rejectableOptions] at able
  · simp [name, rejectableOptions] at able

theorem targetNames_withdraw_idle (settings : kind.Settings) :
    (sharedPart (withdraw settings (idle settings))).targetNames =
      (sharedPart settings).targetNames := by
  have engines : (sharedPart (withdraw settings (idle settings))).engines =
      (sharedPart settings).engines :=
    held_withdraw_idle settings (.collection .engines)
      (by simp [Place.name, Collection.name, mappedOptions, mappedSharedOptions])
      (by simp [Place.name, Collection.name, rejectableOptions])
  unfold SharedSettings.targetNames
  rw [engines]
  rcases value_withdraw_idle settings .target (by decide) with kept | ⟨rejects, usual⟩
  · have kept : (sharedPart (withdraw settings (idle settings))).target =
        (sharedPart settings).target := kept
    rw [kept]
  · have usual : (sharedPart (withdraw settings (idle settings))).target = .esNext := usual
    rcases rejects with ⟨other, _⟩ | ⟨_, early⟩
    · simp [SharedOption.name] at other
    · rw [usual, early]

/-- What is ignored is not read. -/
theorem alike_withdraw_idle (settings : kind.Settings) :
    Alike settings (withdraw settings (idle settings)) where
  held_eq p known able := (held_withdraw_idle settings p known able).symm
  comments_eq := (comments_withdraw_idle settings).symm
  targetNames_eq := (targetNames_withdraw_idle settings).symm

theorem IsIgnored.of_withdraw {settings : kind.Settings} {names : List String} {name : String}
    (kept : name ∉ names) (ignored : IsIgnored (withdraw settings names) name) :
    IsIgnored settings name := by
  rcases ignored with (⟨rfl, placed⟩ | ⟨rfl, early⟩) | unknown
  · have same : (sharedPart (withdraw settings names)).legalComments =
        (sharedPart settings).legalComments :=
      (value_withdraw settings names .legalComments).trans (if_neg kept)
    exact .inl (.inl ⟨rfl, same ▸ placed⟩)
  · have same : (sharedPart (withdraw settings names)).target = (sharedPart settings).target :=
      (value_withdraw settings names .target).trans (if_neg kept)
    exact .inl (.inr ⟨rfl, same ▸ early⟩)
  · exact .inr unknown

/-- Nothing is left to be listed. -/
theorem ignored_withdraw_idle (settings : kind.Settings) :
    ignored (withdraw settings (idle settings)) = [] := by
  refine List.eq_nil_iff_forall_not_mem.mpr fun name listed => ?_
  obtain ⟨explicit, ignored⟩ := mem_ignored_iff.mp listed
  obtain ⟨p, rfl, holds⟩ := mem_explicitOptions_iff.mp explicit
  rw [held_withdraw] at holds
  by_cases idle : p.name ∈ idle settings
  · rw [if_pos idle] at holds
    exact holds rfl
  · rw [if_neg idle] at holds
    have listed : p.name ∈ Settings.ignored settings :=
      mem_ignored_iff.mpr ⟨mem_explicitOptions_iff.mpr ⟨p, rfl, holds⟩, ignored.of_withdraw idle⟩
    exact idle (List.mem_append_left _ listed)

/-- The warning of a plan about ignored options is exact, and what it lists has no effect. -/
structure IgnoresExactly [RegexEngine] (site : RunSite) (settings : kind.Settings)
    (plan : Plan) : Prop where
  /-- There is a warning exactly if an explicit option is ignored. -/
  warned_iff : (∃ warning ∈ plan.warnings, ListsIgnored warning) ↔
    ∃ name ∈ explicitOptions settings, IsIgnored settings name
  /-- It lists the ignored ones among the explicit options in their order, each once. -/
  listed_iff (name : String) :
    name ∈ ignored settings ↔ name ∈ explicitOptions settings ∧ IsIgnored settings name
  sublist : (ignored settings).Sublist (explicitOptions settings)
  nodup : (ignored settings).Nodup
  /-- It comes first, and no other warning lists any as ignored. -/
  warnings_eq :
    plan.warnings = warningOfIgnored settings ++ (sharedPart settings).minifyWarning
  alone : ∀ warning ∈ (sharedPart settings).minifyWarning, ¬ ListsIgnored warning
  /-- Without what it lists, and without what only concerns presentation, the plan has all that it
  had but for this warning. -/
  inert : plan? site (withdraw settings (ignored settings ++ presentationOptions)) =
    some (.ok { plan with warnings := (sharedPart settings).minifyWarning })

theorem ignored_without_effect [RegexEngine] {site : RunSite} {settings : kind.Settings}
    {plan : Plan} (planned : plan? site settings = some (.ok plan)) :
    IgnoresExactly site settings plan where
  warned_iff := by
    rw [warnings_of_plan? planned]
    exact exists_listsIgnored_iff settings
  listed_iff _ := mem_ignored_iff
  sublist := List.filter_sublist
  nodup := (nodup_explicitOptions settings).sublist List.filter_sublist
  warnings_eq := by rw [warnings_of_plan? planned, Settings.warnings_eq]
  alone _ := not_listsIgnored_of_mem_minifyWarning
  inert := by
    have alike := alike_withdraw_idle settings
    have others : warnings (withdraw settings (idle settings)) =
        (sharedPart settings).minifyWarning := by
      rw [Settings.warnings_eq, warningOfIgnored, if_pos (ignored_withdraw_idle settings),
        List.nil_append, alike.minifyWarning_eq]
    rw [← others]
    exact alike.plan?_eq_ok planned

/-- A level that the engine refuses, a pattern that it does not know and a directory that it does
not write to are listed; a log level is not, and neither is a banner. -/
theorem ignored_without_effect_es5 :
    let site : RunSite := ⟨"/", .empty, "x();"⟩
    let settings : SettingsKind.build.Settings := Edit.run
      [.set "outdir" (.text "out"), .set "mangle_props" (.text "^_"), .set "target" (.text "es5"),
        .set "log_level" (.text "debug"), .set "banner" (.text "// b")] {}
    ∃ plan, plan? site settings = some (.ok plan) ∧
      ignored settings = ["target", "mangle_props", "outdir"] ∧
      IgnoresExactly site settings plan :=
  ⟨_, rfl, by decide +kernel, ignored_without_effect rfl⟩

end Settings

end BundleHost
