import BundleHost.ConfigError
import BundleHost.Diagnostic.Basic

/-!
# Errors of a run

What can end a run of the engine without a result. Every error has a message, a code, and possibly
advice.
-/

namespace BundleHost

inductive RunError where
  /-- An option or its value that does not exist. -/
  | invalidOption (error : ConfigError)
  | configuration (message : String) (hint : Option String)
  /-- The engine could not compile the input. -/
  | compilation (diagnostics : List Diagnostic)
  | startFailed (plugin message : String)
  | handlerFailed (plugin : String) (stage : HookStage) (message : String)
  | unresolvedLoad (path space : String)
  | invalidPlugin (error : PluginError)
  | io (message : String)
  deriving DecidableEq, Repr

namespace RunError

/-- The message about diagnostics of the engine. -/
def compilationMessage : List Diagnostic → String
  | [] => "unknown engine error"
  | [single] => single.display
  | many =>
    toString many.length ++ " errors: " ++
      String.intercalate "; " (many.map Diagnostic.display)

def message : RunError → String
  | .invalidOption error => "invalid option: " ++ error.message
  | .configuration message _ => "configuration error: " ++ message
  | .compilation diagnostics => "compilation failed: " ++ compilationMessage diagnostics
  | .startFailed plugin message => (HookFailure.startFailed plugin message).message
  | .handlerFailed plugin stage message =>
    (HookFailure.handlerFailed plugin stage message).message
  | .unresolvedLoad path space => (HookFailure.unresolvedLoad path space).message
  | .invalidPlugin error => "invalid plugin: " ++ error.message
  | .io message => "I/O error: " ++ message

def code : RunError → String
  | .invalidOption _ => "INVALID_OPTION"
  | .configuration .. => "CONFIGURATION_ERROR"
  | .compilation _ => "COMPILATION_ERROR"
  | .startFailed .. => "PLUGIN_START_FAILED"
  | .handlerFailed .. => "PLUGIN_HANDLER_FAILED"
  | .unresolvedLoad .. => "UNRESOLVED_LOAD"
  | .invalidPlugin _ => "INVALID_PLUGIN"
  | .io _ => "IO_ERROR"

def help? : RunError → Option String
  | .invalidOption (.invalidOption _ _ expected) => some ("Use one of: " ++ expected)
  | .invalidOption (.unknownOption name) =>
    some ("'" ++ name ++ "' is not a known option. Check the spelling against the option list.")
  | .configuration _ hint => hint
  | .compilation [single] => single.help
  | .compilation (_ :: _ :: _) => some "Multiple engine errors occurred. See details above."
  | .startFailed plugin _ =>
    some ("The on-start callback of '" ++ plugin ++
      "' returned an error; nothing was resolved or loaded.")
  | .handlerFailed plugin stage _ =>
    some ("Check the " ++ stage.name ++ " handler of plugin '" ++ plugin ++
      "'. Handlers must not fail for inputs their filter matches.")
  | .unresolvedLoad _ space =>
    some ("A resolve handler placed this module in namespace '" ++ space ++
      "'. Add a load handler for that namespace.")
  | _ => none

def diagnostics : RunError → List Diagnostic
  | .compilation diagnostics => diagnostics
  | _ => []

/-- A fault of the configuration as an error of a run. -/
def ofConfig (error : ConfigError) : RunError :=
  match error with
  | .conflict message hint => .configuration message hint
  | .io message => .io message
  | .notFound _ | .unsupportedFormat _ | .invalidValue .. =>
    .configuration error.message error.hint?
  | .invalidOption .. | .unknownOption _ => .invalidOption error

/-- A failure of a plugin as an error of a run. -/
def ofHook : HookFailure → RunError
  | .startFailed plugin message => .startFailed plugin message
  | .handlerFailed plugin stage message => .handlerFailed plugin stage message
  | .unresolvedLoad path space => .unresolvedLoad path space
  | .malformedRequest message => .configuration message none

end RunError

end BundleHost
