import BundleHost.Diagnostic.Coding
import BundleHost.RunError
import BundleHost.Settings.Validation

/-!
# Errors as documents

A written error is a table: its kind under `error`, its message, and what else is known of it. What
an engine of regular expressions says about a pattern stays out of the table.
-/

namespace BundleHost

/-- An error with a kind and further entries. -/
def Document.error (kind : String) (entries : List (String × Document)) : Document :=
  .table (("error", .text kind) :: entries)

def DecodeError.encode (error : DecodeError) : Document :=
  .error "Parse" [("message", .text error.message)]

/-- The message of a conflict; one about an invalid pattern ends with the name of the option. -/
def shownConflict (message : String) : String :=
  match Text.strip? patternHeading message.toList with
  | some rest => patternHeading ++ String.ofList (rest.takeWhile (· ≠ ':'))
  | none => message

/-- The cause of an input or output error stays out of the document. -/
def ConfigError.encode (error : ConfigError) : Document :=
  let message := ("message", Document.text error.message)
  match error with
  | .invalidOption option value expected =>
    .error "InvalidOption"
      [message, ("option", .text option), ("value", .text value), ("expected", .text expected)]
  | .unknownOption _ => .error "UnknownOption" [message]
  | .conflict text hint =>
    .error "Conflict" [("message", .text (shownConflict text)), ("hint", .ofOption .text hint)]
  | .notFound _ => .error "NotFound" [message]
  | .unsupportedFormat _ => .error "UnsupportedFormat" [message]
  | .invalidValue _ hint => .error "InvalidValue" [message, ("hint", .ofOption .text hint)]
  | .io _ => .error "Io" []

def PluginError.encode (error : PluginError) : Document :=
  match error with
  | .emptyName => .error "EmptyName" [("message", .text error.message)]
  | .invalidFilter plugin filter _ =>
    .error "InvalidFilter" [("plugin", .text plugin), ("filter", .text filter)]
  | .invalidSpace .. => .error "InvalidNamespace" [("message", .text error.message)]

namespace RunError

def kind : RunError → String
  | .invalidOption _ => "InvalidOption"
  | .configuration .. => "Configuration"
  | .compilation _ => "Compilation"
  | .startFailed .. => "PluginStartFailed"
  | .handlerFailed .. => "PluginHandlerFailed"
  | .unresolvedLoad .. => "UnresolvedLoad"
  | .invalidPlugin _ => "Plugin"
  | .io _ => "Io"

/-- The message as documents show it. -/
def shown : RunError → String
  | .configuration text hint => (RunError.configuration (shownConflict text) hint).message
  | .invalidPlugin (.invalidFilter plugin filter _) =>
    "invalid plugin: " ++ PluginError.filterHeading plugin filter
  | error => error.message

def encode (error : RunError) : Document :=
  .error error.kind
    [("message", .text error.shown), ("code", .text error.code),
     ("help", .ofOption .text error.help?), ("severity", .text "Error"),
     ("diagnostics", .list (error.diagnostics.map Diagnostic.encode))]

end RunError

end BundleHost
