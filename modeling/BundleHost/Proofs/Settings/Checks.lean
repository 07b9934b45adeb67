import BundleHost.Proofs.Settings.Place
import BundleHost.Proofs.Text.Trim
import BundleHost.Settings.Validation

/-!
# What validation checks

Validation makes checks in a fixed order. Settings are accepted if they pass all of them; else the
first one that they do not pass is reported as a conflict with a hint. Every check reads the places
that it is about and no others. A pattern passes if the engine of regular expressions compiles it,
whichever engine that is, and the report has the engine's own words for what is wrong.

## Main statements

* `validate_eq_makeAll` — validation makes the checks of the kind, one after the other.
* `Check.outcome_congr` — what a check reads.
* `checks_in_order` — when settings are accepted, what is reported, and what it depends on.
-/

namespace BundleHost

open SettingsKind Settings

/-- Something is left of every text when white space is trimmed. -/
def NoneBlank (texts : List String) : Prop := ∀ text ∈ texts, Text.trim text ≠ ""

instance (texts : List String) : Decidable (NoneBlank texts) :=
  inferInstanceAs (Decidable (∀ text ∈ texts, Text.trim text ≠ ""))

/-- What the engine says is wrong with a pattern, if it is given and does not compile. -/
def patternFault? [RegexEngine] (pattern : Option String) : Option String :=
  pattern.bind fun p =>
    match RegexEngine.compile p with
    | .ok _ => none
    | .error fault => some fault

/-- A pattern that is given is a regular expression. -/
def IsRegex [RegexEngine] (pattern : Option String) : Prop :=
  ∀ p ∈ pattern, ∃ program, RegexEngine.compile p = .ok program

theorem patternFault?_eq_none_iff [RegexEngine] {pattern : Option String} :
    patternFault? pattern = none ↔ IsRegex pattern := by
  cases pattern with
  | none => simp [patternFault?, IsRegex]
  | some p => cases compiled : RegexEngine.compile p <;> simp [patternFault?, IsRegex, compiled]

instance [RegexEngine] (pattern : Option String) : Decidable (IsRegex pattern) :=
  decidable_of_iff (patternFault? pattern = none) patternFault?_eq_none_iff

theorem any_isBlank_eq_false_iff {texts : List String} :
    texts.any Text.isBlank = false ↔ NoneBlank texts := by
  simp [NoneBlank, Text.trim_eq_empty_iff]

theorem rejectIf_eq {condition : Bool} {p : Prop} [Decidable p] (h : condition = false ↔ p)
    (message hint : String) :
    rejectIf condition message hint =
      if p then .ok () else .error (.conflict message (some hint)) := by
  rw [rejectIf]
  by_cases holds : p
  · rw [h.mpr holds, if_pos holds, if_neg Bool.false_ne_true]
  · rw [eq_true_of_ne_false (mt h.mp holds), if_neg holds, if_pos rfl]

/-! ## Checks of all kinds of settings -/

inductive SharedCheck where
  | pureNames | mangleProps | reserveProps | importSource | defineKeys
  deriving DecidableEq

namespace SharedCheck

def all : List SharedCheck := [.pureNames, .mangleProps, .reserveProps, .importSource, .defineKeys]

/-- What the settings have to be like. -/
def Passes [RegexEngine] : SharedCheck → SharedSettings → Prop
  | .pureNames, settings => NoneBlank settings.pureNames
  | .mangleProps, settings => IsRegex (settings.explicit? .mangleProps)
  | .reserveProps, settings => IsRegex (settings.explicit? .reserveProps)
  | .importSource, settings =>
    settings.scalars.isSet .jsxImportSource = true → settings.jsx = .automatic
  | .defineKeys, settings => NoneBlank settings.define.keys

instance [RegexEngine] : (c : SharedCheck) → (settings : SharedSettings) →
    Decidable (c.Passes settings)
  | .pureNames, settings => inferInstanceAs (Decidable (NoneBlank settings.pureNames))
  | .mangleProps, settings =>
    inferInstanceAs (Decidable (IsRegex (settings.explicit? .mangleProps)))
  | .reserveProps, settings =>
    inferInstanceAs (Decidable (IsRegex (settings.explicit? .reserveProps)))
  | .importSource, settings => inferInstanceAs
    (Decidable (settings.scalars.isSet .jsxImportSource = true → settings.jsx = .automatic))
  | .defineKeys, settings => inferInstanceAs (Decidable (NoneBlank settings.define.keys))

/-- What is reported of a pattern that does not compile, with what the engine says of it. -/
def patternMessage [RegexEngine] (option : String) (pattern : Option String) : String :=
  "invalid regular expression for '" ++ option ++ "': " ++ (patternFault? pattern).getD ""

theorem patternMessage_eq [RegexEngine] (option : String) {pattern : Option String}
    {fault : String} (found : patternFault? pattern = some fault) :
    patternMessage option pattern = patternHeading ++ option ++ "': " ++ fault := by
  unfold patternMessage patternHeading
  simp only [found, Option.getD_some]

/-- What is reported of settings that do not pass. -/
def message [RegexEngine] : SharedCheck → SharedSettings → String
  | .pureNames, _ => "'pure' entries cannot be empty"
  | .mangleProps, settings => patternMessage "mangle_props" (settings.explicit? .mangleProps)
  | .reserveProps, settings => patternMessage "reserve_props" (settings.explicit? .reserveProps)
  | .importSource, _ => "'jsx_import_source' only applies to the automatic JSX runtime"
  | .defineKeys, _ => "define keys cannot be empty"

/-- How such settings can be mended. -/
def hint : SharedCheck → String
  | .pureNames => "Remove empty strings from the 'pure' list"
  | .mangleProps => "Check the pattern syntax"
  | .reserveProps => "Check the pattern syntax"
  | .importSource => "Set 'jsx' to 'automatic'"
  | .defineKeys => "Remove the empty key from 'define'"

/-- The places that decide whether settings pass. -/
def reads {kind : SettingsKind} : SharedCheck → List (Place kind)
  | .pureNames => [.collection .pureNames]
  | .mangleProps => [.scalar (.shared .mangleProps)]
  | .reserveProps => [.scalar (.shared .reserveProps)]
  | .importSource => [.scalar (.shared .jsxImportSource), .scalar (.shared .jsx)]
  | .defineKeys => [.collection .define]

end SharedCheck

/-! ## Checks of builds -/

inductive BuildCheck where
  | oneOutput | placeToWrite | splittingBundles | splittingFormat | singleStars | entryPoints
  | external | inject
  deriving DecidableEq

namespace BuildCheck

def all : List BuildCheck :=
  [.oneOutput, .placeToWrite, .splittingBundles, .splittingFormat, .singleStars, .entryPoints,
    .external, .inject]

/-- What the settings have to be like. -/
def Passes : BuildCheck → BuildSettings → Prop
  | .oneOutput, settings =>
    ¬ (settings.own.isSet .outfile = true ∧ settings.own.isSet .outdir = true)
  | .placeToWrite, settings =>
    settings.write = true → settings.own.isSet .outfile = true ∨ settings.own.isSet .outdir = true
  | .splittingBundles, settings => settings.splitting = true → settings.bundle = true
  | .splittingFormat, settings => settings.splitting = true → settings.shared.format = .esm
  | .singleStars, settings => ∀ pattern ∈ settings.external, pattern.toList.count '*' ≤ 1
  | .entryPoints, settings => NoneBlank settings.entryPoints
  | .external, settings => NoneBlank settings.external
  | .inject, settings => NoneBlank settings.inject

instance : (c : BuildCheck) → (settings : BuildSettings) → Decidable (c.Passes settings)
  | .oneOutput, _ => inferInstanceAs (Decidable (¬ (_ = true ∧ _ = true)))
  | .placeToWrite, _ => inferInstanceAs (Decidable (_ = true → _ = true ∨ _ = true))
  | .splittingBundles, _ => inferInstanceAs (Decidable (_ = true → _ = true))
  | .splittingFormat, settings =>
    inferInstanceAs (Decidable (_ = true → settings.shared.format = .esm))
  | .singleStars, settings =>
    inferInstanceAs (Decidable (∀ pattern ∈ settings.external, pattern.toList.count '*' ≤ 1))
  | .entryPoints, settings => inferInstanceAs (Decidable (NoneBlank settings.entryPoints))
  | .external, settings => inferInstanceAs (Decidable (NoneBlank settings.external))
  | .inject, settings => inferInstanceAs (Decidable (NoneBlank settings.inject))

/-- What is reported of patterns of which one has several stars; the first such one is named. -/
def starsMessage (patterns : List String) : String :=
  "external path '" ++ (patterns.find? hasSeveralStars).getD "" ++
    "' cannot have more than one '*' wildcard"

/-- What is reported of settings that do not pass. -/
def message : BuildCheck → BuildSettings → String
  | .oneOutput, _ => "cannot use both 'outfile' and 'outdir'"
  | .placeToWrite, _ => "'write' requires an output location"
  | .splittingBundles, _ => "'splitting' requires 'bundle'"
  | .splittingFormat, _ => "'splitting' currently only works with the 'esm' format"
  | .singleStars, settings => starsMessage settings.external
  | .entryPoints, _ => "'entry_points' entries cannot be empty"
  | .external, _ => "'external' entries cannot be empty"
  | .inject, _ => "'inject' entries cannot be empty"

/-- How such settings can be mended. -/
def hint : BuildCheck → String
  | .oneOutput => "Use 'outfile' for a single output file or 'outdir' for several"
  | .placeToWrite => "Set 'outfile' or 'outdir', or turn 'write' off"
  | .splittingBundles => "Enable 'bundle' or turn 'splitting' off"
  | .splittingFormat => "Set 'format' to 'esm'"
  | .singleStars => "Split the pattern into several 'external' entries"
  | .entryPoints => "Remove empty strings from the 'entry_points' list"
  | .external => "Remove empty strings from the 'external' list"
  | .inject => "Remove empty strings from the 'inject' list"

/-- The places that decide whether settings pass. -/
def reads : BuildCheck → List (Place .build)
  | .oneOutput => [.scalar (.own .outfile), .scalar (.own .outdir)]
  | .placeToWrite => [.scalar (.own .write), .scalar (.own .outfile), .scalar (.own .outdir)]
  | .splittingBundles => [.scalar (.own .splitting), .scalar (.own .bundle)]
  | .splittingFormat => [.scalar (.own .splitting), .scalar (.shared .format)]
  | .singleStars => [.collection .external]
  | .entryPoints => [.collection .entryPoints]
  | .external => [.collection .external]
  | .inject => [.collection .inject]

end BuildCheck

/-! ## Checks of a kind of settings -/

/-- The checks that settings of a kind have to pass besides the shared ones. -/
abbrev SettingsKind.OwnCheck : SettingsKind → Type
  | .build => BuildCheck
  | .transform => Empty
  | .shared => Empty

/-- The checks that settings of a kind have to pass. -/
inductive Check (kind : SettingsKind) where
  | own (c : kind.OwnCheck)
  | shared (c : SharedCheck)

namespace Check

variable {kind : SettingsKind}

/-- The checks of one kind only. -/
def allOwn : (kind : SettingsKind) → List kind.OwnCheck
  | .build => BuildCheck.all
  | .transform => []
  | .shared => []

/-- The checks in the order in which they are made. -/
def all (kind : SettingsKind) : List (Check kind) :=
  (allOwn kind).map .own ++ SharedCheck.all.map .shared

/-- What the settings have to be like. -/
def Passes [RegexEngine] : {kind : SettingsKind} → Check kind → kind.Settings → Prop
  | _, .shared c, settings => c.Passes (sharedPart settings)
  | .build, .own c, settings => BuildCheck.Passes c settings

instance [RegexEngine] : {kind : SettingsKind} → (c : Check kind) → (settings : kind.Settings) →
    Decidable (c.Passes settings)
  | .build, .shared c, settings => inferInstanceAs (Decidable (c.Passes settings.shared))
  | .transform, .shared c, settings => inferInstanceAs (Decidable (c.Passes settings.shared))
  | .shared, .shared c, settings => inferInstanceAs (Decidable (c.Passes settings))
  | .build, .own c, settings => inferInstanceAs (Decidable (BuildCheck.Passes c settings))

/-- What is reported of settings that do not pass. -/
def message [RegexEngine] : {kind : SettingsKind} → Check kind → kind.Settings → String
  | _, .shared c, settings => c.message (sharedPart settings)
  | .build, .own c, settings => BuildCheck.message c settings

/-- How such settings can be mended. -/
def hint : {kind : SettingsKind} → Check kind → String
  | _, .shared c => c.hint
  | .build, .own c => BuildCheck.hint c

/-- The places that decide whether settings pass. -/
def reads : {kind : SettingsKind} → Check kind → List (Place kind)
  | _, .shared c => c.reads
  | .build, .own c => BuildCheck.reads c

theorem mem_all (c : Check kind) : c ∈ all kind := by
  cases c with
  | own c => cases kind <;> cases c <;> simp [all, allOwn, BuildCheck.all]
  | shared c => cases c <;> simp [all, SharedCheck.all]

/-! ## Making checks -/

section AnyEngine

variable [RegexEngine]

/-- The outcome of one check. -/
def outcome (c : Check kind) (settings : kind.Settings) : Except ConfigError Unit :=
  if c.Passes settings then .ok () else .error (.conflict (c.message settings) (some c.hint))

/-- The outcome of checks that are made until one is not passed. -/
def makeAll (checks : List (Check kind)) (settings : kind.Settings) : Except ConfigError Unit :=
  match checks.find? fun c => ¬ c.Passes settings with
  | some c => .error (.conflict (c.message settings) (some c.hint))
  | none => .ok ()

theorem makeAll_cons (c : Check kind) (checks : List (Check kind)) (settings : kind.Settings) :
    makeAll (c :: checks) settings = (c.outcome settings >>= fun _ => makeAll checks settings) := by
  by_cases passes : c.Passes settings
  · rw [makeAll, List.find?_cons_of_neg (by simpa using passes), outcome, if_pos passes]
    rfl
  · rw [makeAll, List.find?_cons_of_pos (by simpa using passes), outcome, if_neg passes]
    rfl

theorem makeAll_eq_ok_iff {checks : List (Check kind)} {settings : kind.Settings} :
    makeAll checks settings = .ok () ↔ ∀ c ∈ checks, c.Passes settings := by
  have none : (checks.find? fun c => ¬ c.Passes settings) = none ↔
      ∀ c ∈ checks, c.Passes settings := by
    simp
  rw [← none, makeAll]
  cases checks.find? fun c => ¬ c.Passes settings <;> simp

/-- The first check that is not passed is reported. -/
theorem makeAll_eq_error_iff {checks : List (Check kind)} {settings : kind.Settings}
    {error : ConfigError} :
    makeAll checks settings = .error error ↔
      ∃ before c after, checks = before ++ c :: after ∧ (∀ d ∈ before, d.Passes settings) ∧
        ¬ c.Passes settings ∧ error = .conflict (c.message settings) (some c.hint) := by
  have first (c : Check kind) : (checks.find? fun c => ¬ c.Passes settings) = some c ↔
      ¬ c.Passes settings ∧
        ∃ before after, checks = before ++ c :: after ∧ ∀ d ∈ before, d.Passes settings := by
    simp [List.find?_eq_some_iff_append]
  constructor
  · intro failed
    rw [makeAll] at failed
    split at failed
    next c found =>
      obtain ⟨violated, before, after, split, passed⟩ := (first c).mp found
      exact ⟨before, c, after, split, passed, violated, (Except.error.inj failed).symm⟩
    next => cases failed
  · rintro ⟨before, c, after, split, passed, violated, rfl⟩
    rw [makeAll, (first c).mpr ⟨violated, before, after, split, passed⟩]

/-- Checks are made after a check that is passed. -/
theorem bind_eq_makeAll {c : Check kind} {checks : List (Check kind)} {settings : kind.Settings}
    {first rest : Except ConfigError Unit} (here : first = c.outcome settings)
    (later : rest = makeAll checks settings) :
    (first >>= fun _ => rest) = makeAll (c :: checks) settings := by
  rw [here, later, makeAll_cons]

theorem makeAll_singleton (c : Check kind) (settings : kind.Settings) :
    makeAll [c] settings = c.outcome settings := by
  rw [makeAll_cons]
  exact bind_pure (c.outcome settings)

theorem outcome_shared (c : SharedCheck) (settings : kind.Settings) :
    outcome (.shared c) settings =
      if c.Passes (sharedPart settings) then .ok ()
      else .error (.conflict (c.message (sharedPart settings)) (some c.hint)) := by
  cases kind <;> rfl

theorem rejectIf_shared (c : SharedCheck) {settings : kind.Settings} {condition : Bool}
    (h : condition = false ↔ c.Passes (sharedPart settings)) :
    rejectIf condition (c.message (sharedPart settings)) c.hint =
      outcome (.shared c) settings := by
  rw [outcome_shared, rejectIf_eq h]

theorem rejectIf_own (c : BuildCheck) {settings : BuildSettings} {condition : Bool}
    (h : condition = false ↔ c.Passes settings) :
    rejectIf condition (c.message settings) c.hint = @outcome .build _ (.own c) settings :=
  rejectIf_eq h (c.message settings) c.hint

/-! ## Validation -/

theorem checkPattern_eq (option : String) (pattern : Option String) :
    checkPattern option pattern =
      if IsRegex pattern then .ok ()
      else .error (.conflict (SharedCheck.patternMessage option pattern)
        (some "Check the pattern syntax")) := by
  cases pattern with
  | none => rw [if_pos (patternFault?_eq_none_iff.mp rfl)]; rfl
  | some p =>
    cases compiled : RegexEngine.compile p with
    | ok program =>
      have regex : IsRegex (some p) :=
        patternFault?_eq_none_iff.mp (by simp [patternFault?, compiled])
      rw [if_pos regex, checkPattern, Option.map_some, compiled]
    | error fault =>
      have wrong : ¬ IsRegex (some p) :=
        mt patternFault?_eq_none_iff.mpr (by simp [patternFault?, compiled])
      have found : patternFault? (some p) = some fault := by simp [patternFault?, compiled]
      have reported : checkPattern option (some p) =
          .error (.conflict (patternHeading ++ option ++ "': " ++ fault)
            (some "Check the pattern syntax")) := by
        rw [checkPattern, Option.map_some, compiled]
      rw [if_neg wrong, SharedCheck.patternMessage_eq option found, reported]

theorem checkPattern_shared (c : SharedCheck) {settings : kind.Settings} {option : String}
    {pattern : Option String} (passes : c.Passes (sharedPart settings) ↔ IsRegex pattern)
    (message : c.message (sharedPart settings) = SharedCheck.patternMessage option pattern)
    (hint : c.hint = "Check the pattern syntax") :
    checkPattern option pattern = outcome (.shared c) settings := by
  rw [outcome_shared, checkPattern_eq, message, hint]
  simp only [passes]

theorem checkStars_eq (settings : BuildSettings) :
    checkStars settings.external = @outcome .build _ (.own .singleStars) settings := by
  have single : settings.external.find? hasSeveralStars = none ↔
      BuildCheck.singleStars.Passes settings := by
    simp [hasSeveralStars, BuildCheck.Passes]
  change _ = if BuildCheck.singleStars.Passes settings then _ else _
  rw [checkStars]
  cases found : settings.external.find? hasSeveralStars with
  | none => rw [if_pos (single.mp found)]
  | some pattern =>
    have several := mt single.mpr (by simp [found])
    have first : (settings.external.find? hasSeveralStars).getD "" = pattern := by simp [found]
    rw [if_neg several, ← first]
    rfl

theorem validate_shared_eq (settings : kind.Settings) :
    (sharedPart settings).validate = makeAll (SharedCheck.all.map .shared) settings := by
  refine bind_eq_makeAll (rejectIf_shared .pureNames any_isBlank_eq_false_iff) ?_
  refine bind_eq_makeAll (checkPattern_shared .mangleProps .rfl rfl rfl) ?_
  refine bind_eq_makeAll (checkPattern_shared .reserveProps .rfl rfl rfl) ?_
  refine bind_eq_makeAll (rejectIf_shared .importSource (by simp [SharedCheck.Passes])) ?_
  refine (rejectIf_shared .defineKeys any_isBlank_eq_false_iff).trans ?_
  exact (makeAll_singleton _ settings).symm

theorem validate_build_eq (settings : BuildSettings) :
    settings.validate = makeAll (all .build) settings := by
  refine bind_eq_makeAll (rejectIf_own .oneOutput (by simp [BuildCheck.Passes])) ?_
  refine bind_eq_makeAll (rejectIf_own .placeToWrite (by grind [BuildCheck.Passes])) ?_
  refine bind_eq_makeAll (rejectIf_own .splittingBundles (by simp [BuildCheck.Passes])) ?_
  refine bind_eq_makeAll (rejectIf_own .splittingFormat (by simp [BuildCheck.Passes])) ?_
  refine bind_eq_makeAll (checkStars_eq settings) ?_
  refine bind_eq_makeAll (rejectIf_own .entryPoints any_isBlank_eq_false_iff) ?_
  refine bind_eq_makeAll (rejectIf_own .external any_isBlank_eq_false_iff) ?_
  refine bind_eq_makeAll (rejectIf_own .inject any_isBlank_eq_false_iff) ?_
  exact @validate_shared_eq .build _ settings

end AnyEngine

end Check

/-! ## What checks read -/

section Reads

variable {kind : SettingsKind}

theorem SharedCheck.passes_congr [RegexEngine] {a b : kind.Settings} (c : SharedCheck)
    (same : ∀ p ∈ (c.reads : List (Place kind)), held a p = held b p) :
    c.Passes (sharedPart a) ↔ c.Passes (sharedPart b) := by
  cases c with
  | pureNames =>
    have pureNames : (sharedPart a).pureNames = (sharedPart b).pureNames :=
      same (.collection .pureNames) (by simp [reads])
    rw [Passes, Passes, pureNames]
  | mangleProps =>
    have pattern : (sharedPart a).explicit? .mangleProps = (sharedPart b).explicit? .mangleProps :=
      same (.scalar (.shared .mangleProps)) (by simp [reads])
    rw [Passes, Passes, pattern]
  | reserveProps =>
    have pattern : (sharedPart a).explicit? .reserveProps =
        (sharedPart b).explicit? .reserveProps :=
      same (.scalar (.shared .reserveProps)) (by simp [reads])
    rw [Passes, Passes, pattern]
  | importSource =>
    have source : (sharedPart a).scalars.isSet .jsxImportSource =
        (sharedPart b).scalars.isSet .jsxImportSource :=
      congrArg Option.isSome (same (.scalar (.shared .jsxImportSource)) (by simp [reads]))
    have mode : (sharedPart a).jsx = (sharedPart b).jsx :=
      congrArg (Option.getD · _) (same (.scalar (.shared .jsx)) (by simp [reads]))
    rw [Passes, Passes, source, mode]
  | defineKeys =>
    have define : (sharedPart a).define = (sharedPart b).define :=
      same (.collection .define) (by simp [reads])
    rw [Passes, Passes, define]

theorem BuildCheck.passes_congr {a b : BuildSettings} (c : BuildCheck)
    (same : ∀ p ∈ c.reads, @held .build a p = @held .build b p) : c.Passes a ↔ c.Passes b := by
  have own (o : BuildOption) (read : Place.scalar (.own o) ∈ c.reads) :
      a.explicit? o = b.explicit? o := same (.scalar (.own o)) read
  have isSet (o : BuildOption) (read : Place.scalar (.own o) ∈ c.reads) :
      a.own.isSet o = b.own.isSet o := congrArg Option.isSome (own o read)
  have value (o : BuildOption) (read : Place.scalar (.own o) ∈ c.reads) :
      a.value o = b.value o := congrArg (Option.getD · _) (own o read)
  have list (d : Collection .build) (read : Place.collection d ∈ c.reads) :
      @content .build a d = @content .build b d := same _ read
  cases c with
  | oneOutput =>
    rw [Passes, Passes, isSet .outfile (by simp [reads]), isSet .outdir (by simp [reads])]
  | placeToWrite =>
    have write : a.write = b.write := value .write (by simp [reads])
    rw [Passes, Passes, write, isSet .outfile (by simp [reads]), isSet .outdir (by simp [reads])]
  | splittingBundles =>
    have splitting : a.splitting = b.splitting := value .splitting (by simp [reads])
    have bundle : a.bundle = b.bundle := value .bundle (by simp [reads])
    rw [Passes, Passes, splitting, bundle]
  | splittingFormat =>
    have splitting : a.splitting = b.splitting := value .splitting (by simp [reads])
    have format : a.shared.format = b.shared.format :=
      congrArg (Option.getD · _) (same (.scalar (.shared .format)) (by simp [reads]))
    rw [Passes, Passes, splitting, format]
  | singleStars =>
    have external : a.external = b.external := list .external (by simp [reads])
    rw [Passes, Passes, external]
  | entryPoints =>
    have entryPoints : a.entryPoints = b.entryPoints := list .entryPoints (by simp [reads])
    rw [Passes, Passes, entryPoints]
  | external =>
    have external : a.external = b.external := list .external (by simp [reads])
    rw [Passes, Passes, external]
  | inject =>
    have inject : a.inject = b.inject := list .inject (by simp [reads])
    rw [Passes, Passes, inject]

/-- The message on stars names the pattern that has several. -/
theorem BuildCheck.message_congr {a b : BuildSettings} (c : BuildCheck)
    (same : ∀ p ∈ c.reads, @held .build a p = @held .build b p) : c.message a = c.message b := by
  cases c with
  | singleStars =>
    have external : a.external = b.external := same (.collection .external) List.mem_cons_self
    exact congrArg starsMessage external
  | _ => rfl

/-- A message on a pattern has in it what is wrong with the pattern. -/
theorem SharedCheck.message_congr [RegexEngine] {a b : kind.Settings} (c : SharedCheck)
    (same : ∀ p ∈ (c.reads : List (Place kind)), held a p = held b p) :
    c.message (sharedPart a) = c.message (sharedPart b) := by
  cases c with
  | mangleProps =>
    have pattern : (sharedPart a).explicit? .mangleProps = (sharedPart b).explicit? .mangleProps :=
      same (.scalar (.shared .mangleProps)) (by simp [reads])
    exact congrArg (patternMessage "mangle_props") pattern
  | reserveProps =>
    have pattern : (sharedPart a).explicit? .reserveProps =
        (sharedPart b).explicit? .reserveProps :=
      same (.scalar (.shared .reserveProps)) (by simp [reads])
    exact congrArg (patternMessage "reserve_props") pattern
  | _ => rfl

theorem Check.outcome_congr [RegexEngine] {a b : kind.Settings} (c : Check kind)
    (same : ∀ p ∈ c.reads, held a p = held b p) : c.outcome a = c.outcome b := by
  have passes : c.Passes a ↔ c.Passes b := by
    cases kind <;> cases c <;>
      first
      | exact SharedCheck.passes_congr _ same
      | exact BuildCheck.passes_congr _ same
      | contradiction
  have message : c.message a = c.message b := by
    cases kind <;> cases c <;>
      first
      | exact SharedCheck.message_congr _ same
      | exact BuildCheck.message_congr _ same
      | contradiction
  simp only [outcome, passes, message]

theorem Check.makeAll_congr [RegexEngine] {a b : kind.Settings} {checks : List (Check kind)}
    (same : ∀ c ∈ checks, c.outcome a = c.outcome b) : makeAll checks a = makeAll checks b := by
  induction checks with
  | nil => rfl
  | cons c checks ih =>
    have later := ih fun d mem => same d (List.mem_cons_of_mem _ mem)
    rw [makeAll_cons, makeAll_cons, same c List.mem_cons_self, later]

end Reads

/-! ## Validation as a whole -/

section Validation

variable [RegexEngine] {kind : SettingsKind}

/-- Passes if settings can be used, or tells why they cannot. -/
def Settings.validate : {kind : SettingsKind} → kind.Settings → Except ConfigError Unit
  | .build => BuildSettings.validate
  | .transform => TransformSettings.validate
  | .shared => SharedSettings.validate

theorem validate_eq_makeAll (settings : kind.Settings) :
    validate settings = Check.makeAll (Check.all kind) settings := by
  cases kind with
  | build => exact Check.validate_build_eq settings
  | transform => exact @Check.validate_shared_eq .transform _ settings
  | shared => exact @Check.validate_shared_eq .shared _ settings

theorem validate_congr {a b : kind.Settings} (same : ∀ c : Check kind, c.outcome a = c.outcome b) :
    validate a = validate b := by
  rw [validate_eq_makeAll, validate_eq_makeAll]
  exact Check.makeAll_congr fun c _ => same c

/-- The settings are checked in order. -/
structure ChecksInOrder (settings : kind.Settings) : Prop where
  accepted_iff : validate settings = .ok () ↔ ∀ c : Check kind, c.Passes settings
  /-- The first check that is not passed is reported as a conflict, with a hint. -/
  rejected_iff (error : ConfigError) :
    validate settings = .error error ↔
      ∃ before c after, Check.all kind = before ++ c :: after ∧
        (∀ d ∈ before, d.Passes settings) ∧ ¬ c.Passes settings ∧
          error = .conflict (c.message settings) (some c.hint)
  /-- Only what the checks are about counts. -/
  depends_only (other : kind.Settings) :
    (∀ c : Check kind, ∀ p ∈ c.reads, held other p = held settings p) →
      validate other = validate settings

theorem checks_in_order (settings : kind.Settings) : ChecksInOrder settings where
  accepted_iff := by
    rw [validate_eq_makeAll, Check.makeAll_eq_ok_iff]
    exact ⟨fun passed c => passed c c.mem_all, fun passed c _ => passed c⟩
  rejected_iff error := by
    rw [validate_eq_makeAll, Check.makeAll_eq_error_iff]
  depends_only other same := validate_congr fun c => c.outcome_congr (same c)

/-- Of two checks that are not passed the first one is reported. -/
example :
    let settings : SettingsKind.build.Settings :=
      (BuildSettings.assign {} .write true).mapShared (·.setDefine " " "1")
    validate settings = .error (.conflict "'write' requires an output location"
      (some "Set 'outfile' or 'outdir', or turn 'write' off")) := by
  rfl

end Validation

end BundleHost
