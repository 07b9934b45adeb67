import BundleHost.Overlap

/-!
# Diagnostics

A diagnostic is a message about a run, with the place in a source that it is about, as far as that
is known, and possibly with advice.
-/

namespace BundleHost

inductive DiagnosticKind where
  | parseError | missingExport | circularDependency | unresolvedEntry | unresolvedImport
  /-- Raised by a plugin's handler beside its answer. -/
  | plugin
  /-- A rule that an earlier plugin shadows. -/
  | ruleOverlap
  /-- Options that the engine does not know. -/
  | unsupportedOption
  | other (code : String)
  deriving DecidableEq, Repr

def DiagnosticKind.name : DiagnosticKind → String
  | .parseError => "ParseError"
  | .missingExport => "MissingExport"
  | .circularDependency => "CircularDependency"
  | .unresolvedEntry => "UnresolvedEntry"
  | .unresolvedImport => "UnresolvedImport"
  | .plugin => "Plugin"
  | .ruleOverlap => "RuleOverlap"
  | .unsupportedOption => "UnsupportedOption"
  | .other code => code

inductive Severity where
  | error | warning
  deriving DecidableEq, Repr

structure Diagnostic where
  kind : DiagnosticKind
  severity : Severity
  message : String
  file : Option String := none
  line : Option Nat := none
  column : Option Nat := none
  help : Option String := none
  deriving DecidableEq, Repr

namespace Diagnostic

def warning (kind : DiagnosticKind) (message : String) : Diagnostic :=
  { kind, severity := .warning, message }

/-- A plugin's warning about the specifier or path that it handled. -/
def ofPlugin (plugin path message : String) : Diagnostic :=
  { warning .plugin ("[" ++ plugin ++ "] " ++ message) with file := some path }

theorem ofPlugin_eq (plugin path message : String) :
    ofPlugin plugin path message =
      { kind := .plugin, severity := .warning, message := "[" ++ plugin ++ "] " ++ message
        file := some path, line := none, column := none, help := none } := rfl

def ofOverlap (overlap : Overlap) : Diagnostic :=
  { warning .ruleOverlap overlap.message with
    help := some ("attach '" ++ overlap.shadowed ++ "' before '" ++ overlap.winner ++
      "' or narrow one of the filters") }

theorem ofOverlap_eq (overlap : Overlap) :
    ofOverlap overlap =
      { kind := .ruleOverlap, severity := .warning, message := overlap.message
        file := none, line := none, column := none
        help := some ("attach '" ++ overlap.shadowed ++ "' before '" ++ overlap.winner ++
          "' or narrow one of the filters") } := rfl

/-- The warning that lists options without effect. -/
def ofIgnored (options : List String) : Diagnostic :=
  warning .unsupportedOption
    ("options ignored by this engine: " ++ String.intercalate ", " options)

theorem ofIgnored_eq (options : List String) :
    ofIgnored options =
      { kind := .unsupportedOption, severity := .warning
        message := "options ignored by this engine: " ++ String.intercalate ", " options
        file := none, line := none, column := none, help := none } := rfl

/-- The place of a diagnostic: the file, then what is known of line and column. -/
def location? (diagnostic : Diagnostic) : Option String :=
  diagnostic.file.map fun file =>
    match diagnostic.line, diagnostic.column with
    | some line, some column => file ++ ":" ++ toString line ++ ":" ++ toString column
    | some line, none => file ++ ":" ++ toString line
    | none, _ => file

/-- The diagnostic on one line, its place first. -/
def display (diagnostic : Diagnostic) : String :=
  let text := diagnostic.kind.name ++ ": " ++ diagnostic.message
  match diagnostic.location? with
  | some location => location ++ ": " ++ text
  | none => text

end Diagnostic

end BundleHost
