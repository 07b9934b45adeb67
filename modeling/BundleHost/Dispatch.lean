import BundleHost.Plugin.Basic

/-!
# Dispatch

Requests go to the attached plugins in the order of their attachment, and inside a plugin to its
rules in order. The first rule that matches handles the request, whatever comes of it.
-/

namespace BundleHost

/-- What became of a request. -/
inductive Handling (α : Type) where
  /-- No rule matches. -/
  | unhandled
  | handled (plugin : String) (answer : α)
  deriving DecidableEq, Repr

namespace Dispatch

variable [RegexEngine] {m : Type → Type}

/-- The first rule that matches a request, with the name of its plugin. -/
def claim? {ρ α : Type} [Addressed ρ] (rules : Plugin m → List (Rule m ρ α))
    (plugins : List (Plugin m)) (request : ρ) : Option (String × Rule m ρ α) :=
  plugins.findSome? fun plugin =>
    ((rules plugin).find? (·.matches request)).map fun rule => (plugin.name, rule)

variable [Monad m]

/-- Runs the start callbacks in order, up to and including the first that fails. -/
def start : List (Plugin m) → m (Except HookFailure Unit)
  | [] => pure (.ok ())
  | plugin :: rest =>
    match plugin.onStart with
    | none => start rest
    | some handler => do
      match ← handler () with
      | .ok () => start rest
      | .error message => pure (.error (.startFailed plugin.name message))

/-- The answer that a resolve rule gave, unless it names a namespace that cannot be. -/
def checkResolve (plugin : String) :
    Except String ResolveAnswer → Except HookFailure (Handling ResolveAnswer)
  | .error message => .error (.handlerFailed plugin .resolve message)
  | .ok answer =>
    match answer.space.filter (!Space.isValid ·) with
    | some space =>
      .error (.handlerFailed plugin .resolve ("returned invalid namespace '" ++ space ++ "'"))
    | none => .ok (.handled plugin answer)

def resolve (plugins : List (Plugin m)) (request : ResolveRequest) :
    m (Except HookFailure (Handling ResolveAnswer)) :=
  match claim? Plugin.resolveRules plugins request with
  | none => pure (.ok .unhandled)
  | some (plugin, rule) => do return checkResolve plugin (← rule.handler request)

/-- The answer that a load rule gave. -/
def checkLoad (plugin : String) :
    Except String LoadAnswer → Except HookFailure (Handling LoadAnswer)
  | .error message => .error (.handlerFailed plugin .load message)
  | .ok answer => .ok (.handled plugin answer)

/-- Loads a module; one that no rule loads has to be on disk. -/
def load (plugins : List (Plugin m)) (request : LoadRequest) :
    m (Except HookFailure (Handling LoadAnswer)) :=
  match claim? Plugin.loadRules plugins request with
  | none =>
    pure (if Space.isFile request.space then .ok .unhandled
      else .error (.unresolvedLoad request.path request.space))
  | some (plugin, rule) => do return checkLoad plugin (← rule.handler request)

/-- Runs all end callbacks in order; the first failure is the result. -/
def finish (report : EndReport) : List (Plugin m) → m (Except HookFailure Unit)
  | [] => pure (.ok ())
  | plugin :: rest =>
    match plugin.onEnd with
    | none => finish report rest
    | some handler => do
      let result ← handler report
      let later ← finish report rest
      return match result with
        | .ok () => later
        | .error message => .error (.handlerFailed plugin.name .finish message)

end Dispatch

end BundleHost
