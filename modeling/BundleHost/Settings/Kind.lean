import BundleHost.Settings.Preset

/-!
# Kinds of settings

The settings of builds, those of transforms and the shared ones have the same operations. Here they
are put side by side: the scalar options of a kind, its lists and maps, and the operations on
settings of a kind, each of which is the operation that settings of that kind have.
-/

namespace BundleHost

inductive SettingsKind where
  | build
  | transform
  /-- What builds and transforms have in common, for neither in particular. -/
  | shared
  deriving DecidableEq, Repr

instance : OptionFamily Empty where
  all := []
  mem_all := nofun
  name := nofun
  nodup_names := List.nodup_nil
  type := nofun
  default := nofun

namespace SettingsKind

abbrev Settings : SettingsKind → Type
  | .build => BuildSettings
  | .transform => TransformSettings
  | .shared => SharedSettings

/-! ## Scalar options -/

/-- The options that settings of a kind have besides the shared ones. -/
abbrev OwnOption : SettingsKind → Type
  | .build => BuildOption
  | .transform => TransformOption
  | .shared => Empty

instance : (kind : SettingsKind) → DecidableEq kind.OwnOption
  | .build => inferInstanceAs (DecidableEq BuildOption)
  | .transform => inferInstanceAs (DecidableEq TransformOption)
  | .shared => inferInstanceAs (DecidableEq Empty)

instance : (kind : SettingsKind) → OptionFamily kind.OwnOption
  | .build => inferInstanceAs (OptionFamily BuildOption)
  | .transform => inferInstanceAs (OptionFamily TransformOption)
  | .shared => inferInstanceAs (OptionFamily Empty)

/-- The scalar options of a kind. -/
inductive ScalarOption (kind : SettingsKind) where
  | own (o : kind.OwnOption)
  | shared (o : SharedOption)
  deriving DecidableEq

instance (kind : SettingsKind) : OptionFamily kind.ScalarOption where
  all := (OptionFamily.all : List SharedOption).map .shared ++
    (OptionFamily.all : List kind.OwnOption).map .own
  mem_all
    | .own o => by simp [OptionFamily.mem_all o]
    | .shared o => by simp [OptionFamily.mem_all o]
  name
    | .own o => OptionFamily.name o
    | .shared o => OptionFamily.name o
  nodup_names := by cases kind <;> decide +kernel
  type
    | .own o => OptionFamily.type o
    | .shared o => OptionFamily.type o
  default
    | .own o => OptionFamily.default o
    | .shared o => OptionFamily.default o

/-- The option of a kind that has a name. -/
def option? (kind : SettingsKind) (name : String) : Option kind.ScalarOption :=
  OptionFamily.ofName? name

/-! ## Lists and maps -/

/-- The lists and maps of a kind. -/
inductive Collection : SettingsKind → Type where
  | pureNames {kind : SettingsKind} : Collection kind
  | dropLabels {kind : SettingsKind} : Collection kind
  | engines {kind : SettingsKind} : Collection kind
  | define {kind : SettingsKind} : Collection kind
  | logOverride {kind : SettingsKind} : Collection kind
  | supported {kind : SettingsKind} : Collection kind
  | entryPoints : Collection .build
  | external : Collection .build
  | inject : Collection .build
  deriving DecidableEq, Repr

namespace Collection

/-- The lists and maps of all kinds. -/
def allShared (kind : SettingsKind) : List (Collection kind) :=
  [.pureNames, .dropLabels, .engines, .define, .logOverride, .supported]

/-- The lists and maps of one kind only. -/
def allOwn : (kind : SettingsKind) → List (Collection kind)
  | .build => [.entryPoints, .external, .inject]
  | .transform => []
  | .shared => []

variable {kind : SettingsKind}

def name : Collection kind → String
  | .pureNames => "pure"
  | .dropLabels => "drop_labels"
  | .engines => "engines"
  | .define => "define"
  | .logOverride => "log_override"
  | .supported => "supported"
  | .entryPoints => "entry_points"
  | .external => "external"
  | .inject => "inject"

/-- What is added to a list, or written to a map. -/
abbrev Entry : Collection kind → Type
  | .engines => EngineVersion
  | .define => String × String
  | .logOverride => String × LogLevel
  | .supported => String × Bool
  | _ => String

abbrev Content : Collection kind → Type
  | .engines => List EngineVersion
  | .define => OrderedMap String
  | .logOverride => OrderedMap LogLevel
  | .supported => OrderedMap Bool
  | _ => List String

def isEmpty : (c : Collection kind) → c.Content → Bool
  | .pureNames, list => list.isEmpty
  | .dropLabels, list => list.isEmpty
  | .engines, list => list.isEmpty
  | .define, map => map.isEmpty
  | .logOverride, map => map.isEmpty
  | .supported, map => map.isEmpty
  | .entryPoints, list => list.isEmpty
  | .external, list => list.isEmpty
  | .inject, list => list.isEmpty

end Collection

end SettingsKind

/-! ## Operations -/

namespace Settings

open SettingsKind

variable {kind : SettingsKind}

/-- Sets a scalar option by name; on failure there are no new settings. -/
def set : {kind : SettingsKind} → kind.Settings → String → OptionValue →
    Except ConfigError kind.Settings
  | .build => BuildSettings.set
  | .transform => ScopedSettings.set
  | .shared => SharedSettings.set

def get : {kind : SettingsKind} → kind.Settings → String → Except ConfigError OptionValue
  | .build => BuildSettings.get
  | .transform => ScopedSettings.get
  | .shared => SharedSettings.get

/-- Whether an option was set, even if to its default. -/
def isSet : {kind : SettingsKind} → kind.Settings → String → Except ConfigError Bool
  | .build => BuildSettings.isSet
  | .transform => ScopedSettings.isSet
  | .shared => SharedSettings.isSet

def unset : {kind : SettingsKind} → kind.Settings → String → Except ConfigError kind.Settings
  | .build => BuildSettings.unset
  | .transform => ScopedSettings.unset
  | .shared => SharedSettings.unset

/-- The options that were given something. -/
def explicitOptions : {kind : SettingsKind} → kind.Settings → List String
  | .build => BuildSettings.explicitOptions
  | .transform => ScopedSettings.explicitOptions
  | .shared => SharedSettings.explicitOptions

/-- The options that all kinds have. -/
def sharedPart : {kind : SettingsKind} → kind.Settings → SharedSettings
  | .build, settings => settings.shared
  | .transform, settings => settings.shared
  | .shared, settings => settings

/-- Changes the shared options. -/
def mapShared (change : SharedSettings → SharedSettings) :
    {kind : SettingsKind} → kind.Settings → kind.Settings
  | .build => BuildSettings.mapShared change
  | .transform => ScopedSettings.mapShared change
  | .shared => change

/-- Makes a scalar option hold a value of its type. -/
def assign : {kind : SettingsKind} → kind.Settings → (o : kind.ScalarOption) →
    OptionFamily.Value o → kind.Settings
  | _, settings, .shared o, value => mapShared (·.assign o value) settings
  | .build, settings, .own o, value => BuildSettings.assign settings o value
  | .transform, settings, .own o, value => ScopedSettings.assign settings o value

/-- Adds an entry to a list, or writes one to a map. -/
def add : {kind : SettingsKind} → kind.Settings → (c : kind.Collection) → c.Entry → kind.Settings
  | _, settings, .pureNames, name => mapShared (·.addPure name) settings
  | _, settings, .dropLabels, label => mapShared (·.addDropLabel label) settings
  | _, settings, .engines, engine => mapShared (·.addEngine engine) settings
  | _, settings, .define, entry => mapShared (·.setDefine entry.1 entry.2) settings
  | _, settings, .logOverride, entry => mapShared (·.setLogOverride entry.1 entry.2) settings
  | _, settings, .supported, entry => mapShared (·.setSupported entry.1 entry.2) settings
  | .build, settings, .entryPoints, entry => settings.addEntryPoint entry
  | .build, settings, .external, pattern => settings.addExternal pattern
  | .build, settings, .inject, path => settings.addInject path

/-- What a list or map holds. -/
def content : {kind : SettingsKind} → kind.Settings → (c : kind.Collection) → c.Content
  | _, settings, .pureNames => (sharedPart settings).pureNames
  | _, settings, .dropLabels => (sharedPart settings).dropLabels
  | _, settings, .engines => (sharedPart settings).engines
  | _, settings, .define => (sharedPart settings).define
  | _, settings, .logOverride => (sharedPart settings).logOverride
  | _, settings, .supported => (sharedPart settings).supported
  | .build, settings, .entryPoints => settings.entryPoints
  | .build, settings, .external => settings.external
  | .build, settings, .inject => settings.inject

end Settings

end BundleHost
