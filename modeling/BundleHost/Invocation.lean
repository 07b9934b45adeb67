import BundleHost.Dispatch
import BundleHost.RunError
import BundleHost.RunResult
import BundleHost.Settings.Validation

/-!
# Invocations

An invocation checks the settings, runs the start callbacks, then the engine, and at last the end
callbacks, which learn how the run ended. Rules that are shadowed become warnings of the result.
-/

namespace BundleHost

variable [RegexEngine]

/-- Settings and the plugins in the order of their attachment. -/
structure Options (m : Type → Type) (σ : Type) where
  settings : σ
  plugins : List (Plugin m) := []

/-- What an engine is given. -/
structure EngineInput (m : Type → Type) (σ : Type) where
  source : String
  settings : σ
  plugins : List (Plugin m)

/-- An engine: for its input a result or an error. -/
abbrev Engine (m : Type → Type) (σ : Type) : Type :=
  EngineInput m σ → m (Except RunError RunResult)

namespace Invocation

variable {m : Type → Type} [Monad m] {σ : Type}

/-- The result with warnings about overlaps before its own. -/
def withOverlaps (overlaps : List Overlap) (result : RunResult) : RunResult :=
  { result with warnings := overlaps.map Diagnostic.ofOverlap ++ result.warnings }

/-- What the end callbacks learn. -/
def report (outcome : Except RunError RunResult) : EndReport :=
  match outcome with
  | .ok result => ⟨true, result.warnings.length⟩
  | .error _ => ⟨false, 0⟩

/-- The answer of an invocation: an error of the engine comes before one of the end callbacks. -/
def conclude (outcome : Except RunError RunResult) (ended : Except HookFailure Unit) :
    Except RunError RunResult :=
  match outcome, ended with
  | .error error, _ => .error error
  | .ok _, .error failure => .error (.ofHook failure)
  | .ok result, .ok () => .ok result

/-- Runs the engine between the start and the end callbacks. -/
def drive (plugins : List (Plugin m)) (engine : m (Except RunError RunResult)) :
    m (Except RunError RunResult) := do
  match ← Dispatch.start plugins with
  | .error failure => pure (.error (.ofHook failure))
  | .ok () =>
    let outcome := (← engine).map (withOverlaps (Overlap.find plugins))
    let ended ← Dispatch.finish (report outcome) plugins
    return conclude outcome ended

/-- Runs the engine with options that pass a validation. -/
def run (validate : σ → Except ConfigError Unit) (engine : Engine m σ) (source : String)
    (options : Options m σ) : m (Except RunError RunResult) :=
  match validate options.settings with
  | .error error => pure (.error (.ofConfig error))
  | .ok () => drive options.plugins (engine ⟨source, options.settings, options.plugins⟩)

def build (engine : Engine m BuildSettings) (source : String)
    (options : Options m BuildSettings) : m (Except RunError RunResult) :=
  run BuildSettings.validate engine source options

def transform (engine : Engine m TransformSettings) (source : String)
    (options : Options m TransformSettings) : m (Except RunError RunResult) :=
  run TransformSettings.validate engine source options

end Invocation

end BundleHost
