import BundleHost.Diagnostic.Basic

/-!
# Diagnostics as documents
-/

namespace BundleHost

open Decoder (field get)

namespace DiagnosticKind

/-- The kinds without a code of their own. -/
def plain : List DiagnosticKind :=
  [.parseError, .missingExport, .circularDependency, .unresolvedEntry, .unresolvedImport, .plugin,
   .ruleOverlap, .unsupportedOption]

/-- The name of a kind in documents. -/
def tag : DiagnosticKind → String
  | .parseError => "parse_error"
  | .missingExport => "missing_export"
  | .circularDependency => "circular_dependency"
  | .unresolvedEntry => "unresolved_entry"
  | .unresolvedImport => "unresolved_import"
  | .plugin => "plugin"
  | .ruleOverlap => "rule_overlap"
  | .unsupportedOption => "unsupported_option"
  | .other _ => "other"

def ofTag? (tag : String) : Option DiagnosticKind := plain.find? (·.tag = tag)

/-- A name, or a table from `other` to a code. -/
def decode : Decoder DiagnosticKind
  | .table [("other", code)] => (Decoder.text code).map .other
  | .text "other" => .error .invalidType
  | document => Decoder.variant false ofTag? document

def encode : DiagnosticKind → Document
  | .other code => .table [("other", .text code)]
  | kind => .text kind.tag

end DiagnosticKind

namespace Severity

def name : Severity → String
  | .error => "error"
  | .warning => "warning"

def ofName? (name : String) : Option Severity :=
  [Severity.error, Severity.warning].find? (·.name = name)

def decode : Decoder Severity := Decoder.variant false ofName?

def encode (severity : Severity) : Document := .text severity.name

end Severity

namespace Diagnostic

/-- Lines and columns have 32 bits. -/
def position : Decoder (Option Nat) := Decoder.optional (Decoder.natBelow UInt32.size)

def fields : List Decoder.Field :=
  [field "kind" .required DiagnosticKind.decode,
   field "severity" .required Severity.decode,
   field "message" .required Decoder.text,
   field "file" .nullable (Decoder.optional Decoder.text),
   field "line" .nullable position,
   field "column" .nullable position,
   field "help" .nullable (Decoder.optional Decoder.text)]

def decode : Decoder Diagnostic := fun document => do
  let found ← Decoder.record fields document
  .ok
    { kind := ← get found "kind" DiagnosticKind.decode .parseError
      severity := ← get found "severity" Severity.decode .error
      message := ← get found "message" Decoder.text ""
      file := ← get found "file" (Decoder.optional Decoder.text) none
      line := ← get found "line" position none
      column := ← get found "column" position none
      help := ← get found "help" (Decoder.optional Decoder.text) none }

def encode (diagnostic : Diagnostic) : Document :=
  .table
    [("kind", diagnostic.kind.encode), ("severity", diagnostic.severity.encode),
     ("message", .text diagnostic.message), ("file", .ofOption .text diagnostic.file),
     ("line", .ofOption (fun n => .int n) diagnostic.line),
     ("column", .ofOption (fun n => .int n) diagnostic.column),
     ("help", .ofOption .text diagnostic.help)]

/-- The diagnostic together with what is shown of it. -/
def summary (diagnostic : Diagnostic) : Document :=
  .table
    [("value", diagnostic.encode), ("display", .text diagnostic.display),
     ("location", .ofOption .text diagnostic.location?), ("kind", .text diagnostic.kind.name)]

end Diagnostic

end BundleHost
