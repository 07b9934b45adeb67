import BundleHost.Settings.Coding
import BundleHost.Settings.Validation

/-!
# Settings of any kind

A host that edits settings by name need not know which kind of run they are for. `AnySettings`
joins the kinds, and every operation goes to the settings inside.
-/

namespace BundleHost

inductive AnySettings where
  | build (settings : BuildSettings)
  | transform (settings : TransformSettings)
  /-- Options that builds and transforms have in common, for neither in particular. -/
  | shared (settings : SharedSettings)

namespace AnySettings

def set (settings : AnySettings) (name : String) (value : OptionValue) :
    Except ConfigError AnySettings :=
  match settings with
  | .build s => (s.set name value).map .build
  | .transform s => (s.set name value).map .transform
  | .shared s => (s.set name value).map .shared

def unset (settings : AnySettings) (name : String) : Except ConfigError AnySettings :=
  match settings with
  | .build s => (s.unset name).map .build
  | .transform s => (s.unset name).map .transform
  | .shared s => (s.unset name).map .shared

def get (settings : AnySettings) (name : String) : Except ConfigError OptionValue :=
  match settings with
  | .build s => s.get name
  | .transform s => s.get name
  | .shared s => s.get name

/-- Whether an option was set, even if to its default. -/
def isSet (settings : AnySettings) (name : String) : Except ConfigError Bool :=
  match settings with
  | .build s => s.isSet name
  | .transform s => s.isSet name
  | .shared s => s.isSet name

/-- Makes the scalar option of a name hold what a document says; absent for another name. -/
def assignNamed? (settings : AnySettings) (name : String) (document : Document) :
    Option (Except DecodeError AnySettings) :=
  match settings with
  | .build s => (s.assignNamed? name document).map (·.map .build)
  | .transform s => (s.assignNamed? name document).map (·.map .transform)
  | .shared s => (s.assignNamed? name document).map (·.map .shared)

def sharedPart : AnySettings → SharedSettings
  | .build s => s.shared
  | .transform s => s.shared
  | .shared s => s

/-- Changes the shared options. -/
def mapShared (change : SharedSettings → SharedSettings) : AnySettings → AnySettings
  | .build s => .build (s.mapShared change)
  | .transform s => .transform (s.mapShared change)
  | .shared s => .shared (change s)

/-- The names of the scalar options: all of them for builds, and the own ones for others. -/
def optionNames : AnySettings → List String
  | .build _ => BuildSettings.optionNames
  | .transform _ => TransformOption.all.map TransformOption.name
  | .shared _ => SharedOption.all.map SharedOption.name

/-- The options that were given something. -/
def explicitOptions : AnySettings → List String
  | .build s => s.explicitOptions
  | .transform s => s.explicitOptions
  | .shared s => s.explicitOptions

/-- The outcome of validation; settings for no particular kind of run have none. -/
def validate? [RegexEngine] : AnySettings → Option (Except ConfigError Unit)
  | .build s => some s.validate
  | .transform s => some (TransformSettings.validate s)
  | .shared _ => none

def encode : AnySettings → Document
  | .build s => s.encode
  | .transform s => s.encode
  | .shared s => s.encode

end AnySettings

end BundleHost
