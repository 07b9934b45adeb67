import BundleHost.Diagnostic.Basic
import BundleHost.Diagnostic.Location

/-!
# Reports of the engine

The engine reports events by a code and a message. A report becomes a diagnostic whose place is
that of its label, if it has one, and otherwise the place that its message names.
-/

namespace BundleHost

/-- The kind of an event by its code. -/
def DiagnosticKind.ofCode (code : String) : DiagnosticKind :=
  match code with
  | "PARSE_ERROR" | "JSON_PARSE" => .parseError
  | "MISSING_EXPORT" => .missingExport
  | "CIRCULAR_DEPENDENCY" | "CIRCULAR_REEXPORT" => .circularDependency
  | "UNRESOLVED_ENTRY" => .unresolvedEntry
  | "UNRESOLVED_IMPORT" | "RESOLVE_ERROR" => .unresolvedImport
  | "PLUGIN_ERROR" => .plugin
  | code => .other code

/-- Where an event happened. -/
structure ReportLabel where
  file : String
  line : Nat
  column : Nat
  deriving DecidableEq, Repr

/-- An event as the engine reports it. -/
structure Report where
  code : String
  severity : Severity
  message : String
  label : Option ReportLabel := none
  /-- The module that the event is about. -/
  moduleId : Option String := none
  /-- All that the engine writes about the event, with its advice. -/
  text : String
  deriving DecidableEq, Repr

namespace Report

variable [RegexEngine]

/-- A report without advice, about a place or at least a module if they are known. -/
def plain (code : String) (severity : Severity) (message : String) (label : Option ReportLabel)
    (moduleId : Option String) : Report :=
  { code, severity, message, label, moduleId, text := message }

/-- The engine could not start, possibly with advice. -/
def initFailed (severity : Severity) (message : String) (hint : Option String) : Report :=
  { plain "BUNDLER_INITIALIZE_ERROR" severity message none none with
    text :=
      match hint with
      | some hint => message ++ "\nHelp: " ++ hint
      | none => message }

/-- The replacement of an identifier is no expression. -/
def invalidDefine (severity : Severity) (message : String) : Report :=
  plain "INVALID_DEFINE_CONFIG" severity message none none

/-- JSON that cannot be read, at a line and a column from one; a fault at the very beginning has
no place. -/
def invalidJson (severity : Severity) (message file : String) (line column : Nat) : Report :=
  plain "JSON_PARSE" severity message
    (if line = 1 ∧ column = 1 then none else some ⟨file, line, column - 1⟩) none

/-- A line or column that has 32 bits. -/
def position? (n : Nat) : Option Nat := if n < UInt32.size then some n else none

def location (report : Report) : Location :=
  match report.label with
  | some label => ⟨some label.file, position? label.line, position? label.column⟩
  | none =>
    let found := Location.find report.message
    if found.file.isSome then found else ⟨report.moduleId, none, none⟩

def toDiagnostic (report : Report) : Diagnostic :=
  let location := report.location
  { kind := .ofCode report.code
    severity := report.severity
    message := report.message
    file := location.file
    line := location.line
    column := location.column
    help := advice? report.text }

end Report

end BundleHost
