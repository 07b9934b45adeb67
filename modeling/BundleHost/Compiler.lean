import BundleHost.Bridge.Basic
import BundleHost.Invocation

/-!
# Compilers

A compiler makes the code of a plan. While it runs it asks the bridge where specifiers lead and
what modules contain, and what it asks next may depend on the answers so far. How it compiles is
not described here: a compiler is any such dialogue that ends in an answer.
-/

namespace BundleHost

/-- Questions to the bridge, one after the other, up to a result. -/
inductive Dialogue (α : Type) where
  | done (result : α)
  | resolve (specifier : String) (importer : Option String) (kind : ResolveKind)
      (next : Route → Dialogue α)
  | load (id : String) (next : Loaded → Dialogue α)

namespace Dialogue

variable {α β : Type}

def bind : Dialogue α → (α → Dialogue β) → Dialogue β
  | .done result, f => f result
  | .resolve specifier importer kind next, f =>
    .resolve specifier importer kind fun route => (next route).bind f
  | .load id next, f => .load id fun loaded => (next loaded).bind f

instance : Monad Dialogue where
  pure := .done
  bind := bind

/-- Asks where a specifier leads. -/
def askRoute (specifier : String) (importer : Option String) (kind : ResolveKind) :
    Dialogue Route :=
  .resolve specifier importer kind .done

/-- Asks what a module contains. -/
def askContents (id : String) : Dialogue Loaded := .load id .done

/-- Holds the dialogue with a bridge. -/
def hold [RegexEngine] {m : Type → Type} [Monad m] (bridge : Bridge m) :
    Dialogue α → StateT BridgeState m α
  | .done result => pure result
  | .resolve specifier importer kind next => do
    (next (← bridge.resolve specifier importer kind)).hold bridge
  | .load id next => do (next (← bridge.load id)).hold bridge

end Dialogue

/-- A module that the compiler starts from, with the name of its chunk if it is given one. -/
structure EntryInput where
  name : Option String
  specifier : String
  deriving DecidableEq, Repr

abbrev Compiler : Type := EngineOptions → List EntryInput → Dialogue EngineAnswer

namespace Plan

/-- The name of the chunk of the source text. -/
def sourceName : String := "stdin"

/-- The source text, then the entry points. -/
def inputs (plan : Plan) : List EntryInput :=
  ⟨some sourceName, ModuleRef.sourceId⟩ :: plan.entryPoints.map fun specifier => ⟨none, specifier⟩

variable [RegexEngine] {m : Type → Type}

/-- The bridge that a run of a plan builds. -/
def bridge (plan : Plan) (plugins : List (Plugin m)) : Bridge m :=
  ⟨plugins, plan.entry, plan.externals⟩

variable [Monad m]

/-- Runs a plan: the compiler talks to a new bridge, and what they come to makes the result. -/
def execute (plan : Plan) (compiler : Compiler) (plugins : List (Plugin m)) :
    m (Except RunError RunResult) := do
  let (answer, state) ← ((compiler plan.options plan.inputs).hold (plan.bridge plugins)).run {}
  return plan.finish ⟨state.failure, state.warnings⟩ answer

end Plan

namespace Compiler

variable [RegexEngine] {m : Type → Type} [Monad m] (compiler : Compiler)

/-- The compiler as an engine for builds that run in a directory. -/
def buildEngine (processDir : String) (disk : Disk) : Engine m BuildSettings := fun input =>
  match Plan.forBuild processDir disk input.settings input.source with
  | .error error => pure (.error error)
  | .ok plan => plan.execute compiler input.plugins

/-- The compiler as an engine for transforms that run in a directory. -/
def transformEngine (processDir : String) : Engine m TransformSettings := fun input =>
  (Plan.forTransform processDir input.settings input.source).execute compiler input.plugins

end Compiler

end BundleHost
