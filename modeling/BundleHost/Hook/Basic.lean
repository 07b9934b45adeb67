import BundleHost.Space
import BundleHost.Vocabulary

/-!
# Hooks

A plugin takes part in a run at four stages: when it starts, when a specifier is resolved to a
module, when the contents of a module are loaded, and when it ends. Here are the requests that are
put to plugins, their answers, and what can fail.
-/

namespace BundleHost

/-- What asks for a specifier to be resolved. -/
inductive ResolveKind where
  | entryPoint | importStatement | requireCall | dynamicImport | requireResolve | importRule
  | composesFrom | urlToken
  deriving DecidableEq, Repr

namespace ResolveKind

def all : List ResolveKind :=
  [.entryPoint, .importStatement, .requireCall, .dynamicImport, .requireResolve, .importRule,
   .composesFrom, .urlToken]

def name : ResolveKind → String
  | .entryPoint => "entry-point"
  | .importStatement => "import-statement"
  | .requireCall => "require-call"
  | .dynamicImport => "dynamic-import"
  | .requireResolve => "require-resolve"
  | .importRule => "import-rule"
  | .composesFrom => "composes-from"
  | .urlToken => "url-token"

def ofName? (name : String) : Option ResolveKind := all.find? (·.name = name)

end ResolveKind

/-- The request to resolve a specifier. -/
structure ResolveRequest where
  /-- As it was written. -/
  specifier : String
  /-- The path of the importing module; entry points have none. -/
  importer : Option String := none
  /-- The namespace of the importing module. -/
  space : String := Space.file
  resolveDir : Option String := none
  kind : ResolveKind := .importStatement
  deriving DecidableEq, Repr

/-- The module that a plugin resolves a specifier to. -/
structure ResolveAnswer where
  /-- If empty and external, the specifier is kept as it was written. -/
  path : String := ""
  /-- The namespace of the module, `file` if absent. -/
  space : Option String := none
  external : Bool := false
  sideEffects : Option Bool := none
  warnings : List String := []
  deriving DecidableEq, Repr

/-- The namespace that the resolved module lies in. -/
def ResolveAnswer.targetSpace (answer : ResolveAnswer) : String := answer.space.getD Space.file

/-- The request to load the contents of a module. -/
structure LoadRequest where
  path : String
  space : String := Space.file
  deriving DecidableEq, Repr

structure LoadAnswer where
  contents : String
  loader : Loader := .js
  /-- The directory from which imports in the contents are resolved. -/
  resolveDir : Option String := none
  warnings : List String := []
  deriving DecidableEq, Repr

/-- How a run ended. -/
structure EndReport where
  succeeded : Bool
  warningCount : Nat
  deriving DecidableEq, Repr

/-- A request that rules are matched against. -/
class Addressed (ρ : Type) where
  /-- What a filter looks at. -/
  subject : ρ → String
  /-- What a restriction looks at. -/
  space : ρ → String

instance : Addressed ResolveRequest := ⟨ResolveRequest.specifier, ResolveRequest.space⟩

instance : Addressed LoadRequest := ⟨LoadRequest.path, LoadRequest.space⟩

inductive HookStage where
  | start | resolve | load | finish
  deriving DecidableEq, Repr

namespace HookStage

def all : List HookStage := [.start, .resolve, .load, .finish]

def name : HookStage → String
  | .start => "start"
  | .resolve => "resolve"
  | .load => "load"
  | .finish => "end"

def ofName? (name : String) : Option HookStage := all.find? (·.name = name)

end HookStage

/-- What ends a run from within its plugins. -/
inductive HookFailure where
  | startFailed (plugin message : String)
  | handlerFailed (plugin : String) (stage : HookStage) (message : String)
  /-- No rule loads a module that is not on disk. -/
  | unresolvedLoad (path space : String)
  | malformedRequest (message : String)
  deriving DecidableEq, Repr

def HookFailure.message : HookFailure → String
  | .startFailed plugin message => "plugin '" ++ plugin ++ "' failed to start: " ++ message
  | .handlerFailed plugin stage message =>
    "plugin '" ++ plugin ++ "' failed during " ++ stage.name ++ ": " ++ message
  | .unresolvedLoad path space => "no plugin loaded '" ++ path ++ "' in namespace '" ++ space ++ "'"
  | .malformedRequest message => "malformed hook request: " ++ message

end BundleHost
