import BundleHost.Invocation

/-!
# Rehearsals

A rehearsal stands in for an engine: it puts given requests to the plugins and lists what comes of
them, so that plugins can be tried without compiling anything.
-/

namespace BundleHost

structure Rehearsal where
  /-- What is asked in order; absent where no request could be read. -/
  requests : List (Option ResolveRequest) := []
  /-- What the rehearsed run warns about, beside the plugins. -/
  warnings : List Diagnostic := []
  outputs : List OutputFile := []

namespace Rehearsal

variable [RegexEngine] {m : Type → Type} [Monad m]

/-- What a resolved request comes to, with the warnings that are kept: an import outside, the
contents that a plugin loads, or a file on disk. -/
def outcome (plugins : List (Plugin m)) (request : ResolveRequest) (plugin : String)
    (answer : ResolveAnswer) : m (Except RunError (String × List Diagnostic)) := do
  if answer.external then return .ok ("external:" ++ request.specifier, [])
  else
    let warnings := answer.warnings.map (Diagnostic.ofPlugin plugin request.specifier)
    return match ← Dispatch.load plugins ⟨answer.path, answer.targetSpace⟩ with
      | .error failure => .error (.ofHook failure)
      | .ok .unhandled => .ok ("disk:" ++ answer.path, warnings)
      | .ok (.handled _ loaded) => .ok (loaded.contents, warnings)

/-- A line and the plugins' warnings for every request, up to the first failure. -/
def ask (plugins : List (Plugin m)) :
    List (Option ResolveRequest) → m (Except RunError (List String × List Diagnostic))
  | [] => return .ok ([], [])
  | none :: _ => return .error (.configuration "bad import" none)
  | some request :: rest => do
    match ← Dispatch.resolve plugins request with
    | .error failure => return .error (.ofHook failure)
    | .ok .unhandled =>
      return (← ask plugins rest).map fun (lines, warnings) =>
        (("unhandled:" ++ request.specifier) :: lines, warnings)
    | .ok (.handled plugin answer) =>
      match ← outcome plugins request plugin answer with
      | .error error => return .error error
      | .ok (line, kept) =>
        return (← ask plugins rest).map fun (lines, warnings) => (line :: lines, kept ++ warnings)

/-- Rehearses a run on a source text. -/
def run (rehearsal : Rehearsal) (plugins : List (Plugin m)) (source : String) :
    m (Except RunError RunResult) := do
  return (← ask plugins rehearsal.requests).map fun (lines, warnings) =>
    { outputText := String.intercalate "\n" (source :: lines)
      warnings := warnings ++ rehearsal.warnings
      outputs := rehearsal.outputs }

end Rehearsal

end BundleHost
