import BundleHost.Settings.Basic
import BundleHost.RegexEngine

/-!
# Validation

Settings are rejected when options contradict each other or hold what can never work. The checks
run in a fixed order and the first one that fails is reported.
-/

namespace BundleHost

/-- Passes if the condition does not hold. -/
def rejectIf (condition : Bool) (message hint : String) : Except ConfigError Unit :=
  if condition then .error (.conflict message (some hint)) else .ok ()

/-- No entry of a list is blank. -/
def checkEntries (option : String) (entries : List String) : Except ConfigError Unit :=
  rejectIf (entries.any Text.isBlank) ("'" ++ option ++ "' entries cannot be empty")
    ("Remove empty strings from the '" ++ option ++ "' list")

/-- How the message about an invalid pattern begins; the name of the option follows. -/
def patternHeading : String := "invalid regular expression for '"

/-- A pattern that is given is a regular expression. -/
def checkPattern [RegexEngine] (option : String) (pattern : Option String) :
    Except ConfigError Unit :=
  match pattern.map RegexEngine.compile with
  | some (.error fault) =>
    .error (.conflict (patternHeading ++ option ++ "': " ++ fault)
      (some "Check the pattern syntax"))
  | _ => .ok ()

/-- Whether an external pattern has more stars than the one it may have. -/
def hasSeveralStars (pattern : String) : Bool := decide (1 < pattern.toList.count '*')

/-- No external pattern has several stars. -/
def checkStars (patterns : List String) : Except ConfigError Unit :=
  match patterns.find? hasSeveralStars with
  | some pattern =>
    .error (.conflict ("external path '" ++ pattern ++ "' cannot have more than one '*' wildcard")
      (some "Split the pattern into several 'external' entries"))
  | none => .ok ()

variable [RegexEngine]

def SharedSettings.validate (settings : SharedSettings) : Except ConfigError Unit := do
  checkEntries "pure" settings.pureNames
  checkPattern "mangle_props" (settings.explicit? .mangleProps)
  checkPattern "reserve_props" (settings.explicit? .reserveProps)
  rejectIf (settings.scalars.isSet .jsxImportSource && settings.jsx != .automatic)
    "'jsx_import_source' only applies to the automatic JSX runtime" "Set 'jsx' to 'automatic'"
  rejectIf (settings.define.keys.any Text.isBlank) "define keys cannot be empty"
    "Remove the empty key from 'define'"

def TransformSettings.validate (settings : TransformSettings) : Except ConfigError Unit :=
  settings.shared.validate

def BuildSettings.validate (settings : BuildSettings) : Except ConfigError Unit := do
  let outfile := settings.own.isSet .outfile
  let outdir := settings.own.isSet .outdir
  rejectIf (outfile && outdir) "cannot use both 'outfile' and 'outdir'"
    "Use 'outfile' for a single output file or 'outdir' for several"
  rejectIf (settings.write && !outfile && !outdir) "'write' requires an output location"
    "Set 'outfile' or 'outdir', or turn 'write' off"
  rejectIf (settings.splitting && !settings.bundle) "'splitting' requires 'bundle'"
    "Enable 'bundle' or turn 'splitting' off"
  rejectIf (settings.splitting && settings.shared.format != .esm)
    "'splitting' currently only works with the 'esm' format" "Set 'format' to 'esm'"
  checkStars settings.external
  checkEntries "entry_points" settings.entryPoints
  checkEntries "external" settings.external
  checkEntries "inject" settings.inject
  settings.shared.validate

end BundleHost
