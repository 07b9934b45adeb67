import BundleHost.Settings.Kind

/-!
# Edits

What a host does to settings, one step after the other. A step that fails leaves the settings as
they are.
-/

namespace BundleHost

open SettingsKind

/-- A change to settings of a kind. -/
inductive Edit (kind : SettingsKind) where
  | set (name : String) (value : OptionValue)
  | unset (name : String)
  /-- Sets an option to a value of its type. -/
  | assign (o : kind.ScalarOption) (value : OptionFamily.Value o)
  | minify
  | production
  | development
  | add (c : kind.Collection) (entry : c.Entry)

namespace Edit

variable {kind : SettingsKind}

/-- The settings with an edit made, or why it cannot be made. -/
def apply : Edit kind → kind.Settings → Except ConfigError kind.Settings
  | .set name value, settings => Settings.set settings name value
  | .unset name, settings => Settings.unset settings name
  | .assign o value, settings => .ok (Settings.assign settings o value)
  | .minify, settings => .ok (Settings.mapShared .minify settings)
  | .production, settings => .ok (Settings.mapShared .production settings)
  | .development, settings => .ok (Settings.mapShared .development settings)
  | .add c entry, settings => .ok (Settings.add settings c entry)

/-- The settings after an edit, whether it could be made or not. -/
def perform (edit : Edit kind) (settings : kind.Settings) : kind.Settings :=
  match edit.apply settings with
  | .ok settings => settings
  | .error _ => settings

/-- The settings after edits, one after the other. -/
def run (edits : List (Edit kind)) (settings : kind.Settings) : kind.Settings :=
  edits.foldl (fun settings edit => edit.perform settings) settings

end Edit

end BundleHost
