import BundleHost.Settings.Option

/-!
# Settings

Settings are scalar options together with lists and maps. Those of a build and those of a
transform share most of their options: `ScopedSettings` joins the shared ones with a family of
its own, whose names are looked up first.
-/

namespace BundleHost

/-- A runtime with the least version that the output has to run on. -/
structure EngineVersion where
  name : EngineName
  version : String
  deriving DecidableEq

/-- The options of builds and of transforms. -/
structure SharedSettings where
  scalars : Slots SharedOption := Slots.empty
  /-- Names of functions whose calls have no effects. -/
  pureNames : List String := []
  dropLabels : List String := []
  engines : List EngineVersion := []
  /-- Identifiers or expressions, each replaced by literal text. -/
  define : OrderedMap String := .empty
  /-- A log level for each of some message identifiers. -/
  logOverride : OrderedMap LogLevel := .empty
  /-- Language features that are forced on or off. -/
  supported : OrderedMap Bool := .empty
  deriving DecidableEq

namespace SharedSettings

/-- Sets a scalar option by name; on failure there are no new settings. -/
def set (settings : SharedSettings) (name : String) (value : OptionValue) :
    Except ConfigError SharedSettings :=
  match settings.scalars.setNamed? name value with
  | some (.ok scalars) => .ok { settings with scalars }
  | some (.error error) => .error error
  | none => .error (.unknownOption name)

def get (settings : SharedSettings) (name : String) : Except ConfigError OptionValue :=
  match settings.scalars.getNamed? name with
  | some value => .ok value
  | none => .error (.unknownOption name)

/-- Whether an option was set, even if to its default. -/
def isSet (settings : SharedSettings) (name : String) : Except ConfigError Bool :=
  match settings.scalars.isSetNamed? name with
  | some set => .ok set
  | none => .error (.unknownOption name)

def unset (settings : SharedSettings) (name : String) : Except ConfigError SharedSettings :=
  match settings.scalars.clearNamed? name with
  | some scalars => .ok { settings with scalars }
  | none => .error (.unknownOption name)

/-- Makes a scalar option hold a value of its type. -/
def assign (settings : SharedSettings) (o : SharedOption) (value : OptionFamily.Value o) :
    SharedSettings :=
  { settings with scalars := settings.scalars.assign o value }

/-- The lists and maps by name, and whether they are empty. -/
def collections (settings : SharedSettings) : List (String × Bool) :=
  [("pure", settings.pureNames.isEmpty), ("drop_labels", settings.dropLabels.isEmpty),
   ("engines", settings.engines.isEmpty), ("define", settings.define.isEmpty),
   ("log_override", settings.logOverride.isEmpty), ("supported", settings.supported.isEmpty)]

/-- The options that were given something: set scalars, then lists and maps that are not empty. -/
def explicitOptions (settings : SharedSettings) : List String :=
  settings.scalars.setOptions.map OptionFamily.name ++
    (settings.collections.filter (!·.2)).map (·.1)

def addPure (settings : SharedSettings) (name : String) : SharedSettings :=
  { settings with pureNames := settings.pureNames ++ [name] }

def addDropLabel (settings : SharedSettings) (label : String) : SharedSettings :=
  { settings with dropLabels := settings.dropLabels ++ [label] }

def addEngine (settings : SharedSettings) (engine : EngineVersion) : SharedSettings :=
  { settings with engines := settings.engines ++ [engine] }

def setDefine (settings : SharedSettings) (key value : String) : SharedSettings :=
  { settings with define := settings.define.insert key value }

def setLogOverride (settings : SharedSettings) (key : String) (level : LogLevel) :
    SharedSettings :=
  { settings with logOverride := settings.logOverride.insert key level }

def setSupported (settings : SharedSettings) (feature : String) (enabled : Bool) :
    SharedSettings :=
  { settings with supported := settings.supported.insert feature enabled }

/-! ## Values of single options -/

def value (settings : SharedSettings) (o : SharedOption) : OptionFamily.Value o :=
  settings.scalars.value o

/-- The value that an option was set to. -/
def explicit? (settings : SharedSettings) (o : SharedOption) : Option (OptionFamily.Value o) :=
  settings.scalars.explicit? o

def format (settings : SharedSettings) : Format := settings.value .format
def platform (settings : SharedSettings) : Platform := settings.value .platform
def target (settings : SharedSettings) : Target := settings.value .target
def sourcemap (settings : SharedSettings) : SourceMap := settings.value .sourcemap
def treeShaking (settings : SharedSettings) : TreeShaking := settings.value .treeShaking
def legalComments (settings : SharedSettings) : LegalComments := settings.value .legalComments
def jsx (settings : SharedSettings) : JsxMode := settings.value .jsx
def minifyWhitespace (settings : SharedSettings) : Bool := settings.value .minifyWhitespace
def minifyIdentifiers (settings : SharedSettings) : Bool := settings.value .minifyIdentifiers
def minifySyntax (settings : SharedSettings) : Bool := settings.value .minifySyntax

/-- Whether anything is minified. -/
def minifyAny (settings : SharedSettings) : Bool :=
  settings.minifyWhitespace || settings.minifyIdentifiers || settings.minifySyntax

end SharedSettings

/-- The shared options together with a family of options of one kind of run. -/
structure ScopedSettings (ι : Type) [DecidableEq ι] [OptionFamily ι] where
  shared : SharedSettings := {}
  own : Slots ι := Slots.empty

namespace ScopedSettings

variable {ι : Type} [DecidableEq ι] [OptionFamily ι]

instance : DecidableEq (ScopedSettings ι) := fun a b =>
  if h : a.shared = b.shared ∧ a.own = b.own then .isTrue (by cases a; cases b; simp_all)
  else .isFalse fun e => h (e ▸ ⟨rfl, rfl⟩)

/-- Sets a scalar option by name; on failure there are no new settings. -/
def set (settings : ScopedSettings ι) (name : String) (value : OptionValue) :
    Except ConfigError (ScopedSettings ι) :=
  match settings.own.setNamed? name value with
  | some (.ok own) => .ok { settings with own }
  | some (.error error) => .error error
  | none => do .ok { settings with shared := ← settings.shared.set name value }

def get (settings : ScopedSettings ι) (name : String) : Except ConfigError OptionValue :=
  match settings.own.getNamed? name with
  | some value => .ok value
  | none => settings.shared.get name

/-- Whether an option was set, even if to its default. -/
def isSet (settings : ScopedSettings ι) (name : String) : Except ConfigError Bool :=
  match settings.own.isSetNamed? name with
  | some set => .ok set
  | none => settings.shared.isSet name

def unset (settings : ScopedSettings ι) (name : String) :
    Except ConfigError (ScopedSettings ι) :=
  match settings.own.clearNamed? name with
  | some own => .ok { settings with own }
  | none => do .ok { settings with shared := ← settings.shared.unset name }

/-- Makes an option of the own family hold a value of its type. -/
def assign (settings : ScopedSettings ι) (o : ι) (value : OptionFamily.Value o) :
    ScopedSettings ι :=
  { settings with own := settings.own.assign o value }

/-- Changes the shared options. -/
def mapShared (change : SharedSettings → SharedSettings) (settings : ScopedSettings ι) :
    ScopedSettings ι :=
  { settings with shared := change settings.shared }

/-- The options that were given something, the shared ones first. -/
def explicitOptions (settings : ScopedSettings ι) : List String :=
  settings.shared.explicitOptions ++ settings.own.setOptions.map OptionFamily.name

end ScopedSettings

/-- The settings of a transform of one source text. -/
abbrev TransformSettings : Type := ScopedSettings TransformOption

namespace TransformSettings

def loader (settings : TransformSettings) : Loader := settings.own.value .loader
def sourcefile (settings : TransformSettings) : String := settings.own.value .sourcefile

end TransformSettings

/-- The settings of a build. -/
structure BuildSettings extends ScopedSettings BuildOption where
  entryPoints : List String := []
  /-- Patterns of imports that stay outside the output. -/
  external : List String := []
  /-- Files whose exports are available everywhere. -/
  inject : List String := []
  deriving DecidableEq

namespace BuildSettings

/-- Sets a scalar option by name; on failure there are no new settings. -/
def set (settings : BuildSettings) (name : String) (value : OptionValue) :
    Except ConfigError BuildSettings := do
  .ok { settings with toScopedSettings := ← settings.toScopedSettings.set name value }

def get (settings : BuildSettings) (name : String) : Except ConfigError OptionValue :=
  settings.toScopedSettings.get name

/-- Whether an option was set, even if to its default. -/
def isSet (settings : BuildSettings) (name : String) : Except ConfigError Bool :=
  settings.toScopedSettings.isSet name

def unset (settings : BuildSettings) (name : String) : Except ConfigError BuildSettings := do
  .ok { settings with toScopedSettings := ← settings.toScopedSettings.unset name }

/-- Makes an option of builds hold a value of its type. -/
def assign (settings : BuildSettings) (o : BuildOption) (value : OptionFamily.Value o) :
    BuildSettings :=
  { settings with toScopedSettings := settings.toScopedSettings.assign o value }

/-- Changes the shared options. -/
def mapShared (change : SharedSettings → SharedSettings) (settings : BuildSettings) :
    BuildSettings :=
  { settings with shared := change settings.shared }

/-- The lists of builds by name, and whether they are empty. -/
def collections (settings : BuildSettings) : List (String × Bool) :=
  [("entry_points", settings.entryPoints.isEmpty), ("external", settings.external.isEmpty),
   ("inject", settings.inject.isEmpty)]

/-- The options that were given something, the shared ones first. -/
def explicitOptions (settings : BuildSettings) : List String :=
  settings.toScopedSettings.explicitOptions ++
    (settings.collections.filter (!·.2)).map (·.1)

def addEntryPoint (settings : BuildSettings) (entry : String) : BuildSettings :=
  { settings with entryPoints := settings.entryPoints ++ [entry] }

def addExternal (settings : BuildSettings) (pattern : String) : BuildSettings :=
  { settings with external := settings.external ++ [pattern] }

def addInject (settings : BuildSettings) (path : String) : BuildSettings :=
  { settings with inject := settings.inject ++ [path] }

/-- The names of all scalar options, the shared ones first. -/
def optionNames : List String :=
  SharedOption.all.map SharedOption.name ++ BuildOption.all.map BuildOption.name

/-- The names of all options, in the order in which explicit ones are listed. -/
def allNames : List String :=
  let empty : BuildSettings := {}
  optionNames ++ (empty.shared.collections ++ empty.collections).map (·.1)

/-! ## Values of single options -/

def value (settings : BuildSettings) (o : BuildOption) : OptionFamily.Value o :=
  settings.own.value o

/-- The value that an option was set to. -/
def explicit? (settings : BuildSettings) (o : BuildOption) : Option (OptionFamily.Value o) :=
  settings.own.explicit? o

def bundle (settings : BuildSettings) : Bool := settings.value .bundle
def write (settings : BuildSettings) : Bool := settings.value .write
def splitting (settings : BuildSettings) : Bool := settings.value .splitting
def preserveSymlinks (settings : BuildSettings) : Bool := settings.value .preserveSymlinks
def packages (settings : BuildSettings) : Packages := settings.value .packages
def loader (settings : BuildSettings) : Loader := settings.value .loader

end BuildSettings

end BundleHost
