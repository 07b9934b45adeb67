import BundleHost.Dispatch
import BundleHost.Plan.Answer

/-!
# The bridge between engine and plugins

While it runs, the engine asks where specifiers lead and what modules contain. The bridge puts its
questions to the plugins, answers those about the source text itself, and keeps what has to be
known later: the first failure, all warnings, and the directories that loaded modules gave.
-/

namespace BundleHost

/-- A module that a specifier was resolved to. -/
structure ResolvedId where
  id : String
  external : Bool
  sideEffects : Option Bool := none
  deriving DecidableEq, Repr

/-- The answer to the question where a specifier leads. -/
inductive Route where
  | found (resolved : ResolvedId)
  /-- The engine resolves by itself. -/
  | engine
  /-- The engine resolves as if the import stood in a file of that path. -/
  | delegate (importer : String)
  | failed (failure : HookFailure)
  deriving DecidableEq, Repr

/-- The answer to the question what a module contains. -/
inductive Loaded where
  | contents (code : String) (type : ModuleType)
  /-- The engine reads the module by itself. -/
  | engine
  | failed (failure : HookFailure)
  deriving DecidableEq, Repr

/-- What the bridge keeps during a run. -/
structure BridgeState where
  /-- The first failure. -/
  failure : Option HookFailure := none
  warnings : List Diagnostic := []
  /-- The directories that loaded modules gave for their imports. -/
  moduleDirs : OrderedMap String := .empty
  deriving DecidableEq

/-- What the bridge knows from the start. -/
structure Bridge [RegexEngine] (m : Type → Type) where
  plugins : List (Plugin m)
  entry : SourceEntry
  externals : ExternalPolicy

namespace BridgeState

/-- Keeps a failure, unless there was one before. -/
def record (state : BridgeState) (failure : HookFailure) : BridgeState :=
  { state with failure := state.failure.or (some failure) }

/-- Keeps a plugin's warnings about a specifier or path. -/
def warn (state : BridgeState) (plugin path : String) (messages : List String) : BridgeState :=
  { state with warnings := state.warnings ++ messages.map (Diagnostic.ofPlugin plugin path) }

/-- Hands out the failure and forgets it. -/
def takeFailure (state : BridgeState) : Option HookFailure × BridgeState :=
  (state.failure, { state with failure := none })

/-- Hands out the warnings and forgets them. -/
def takeWarnings (state : BridgeState) : List Diagnostic × BridgeState :=
  (state.warnings, { state with warnings := [] })

/-- The directory from which imports of a module are resolved: that of the source text, the one
that the module gave when it was loaded, or the one that it lies in. -/
def dirOf (state : BridgeState) (entry : SourceEntry) (id : String) : Option String :=
  if id = ModuleRef.sourceId then some entry.resolveDir
  else
    match state.moduleDirs.get? id with
    | some dir => some dir
    | none =>
      let ref := ModuleRef.ofId id
      if Space.isFile ref.space then Path.parent? ref.path else none

end BridgeState

/-- How a module imports another one, in terms of the engine. -/
inductive ImportKind where
  | importStatement | hotAccept | dynamicImport | requireCall | atRule | urlImport | newUrl
  deriving DecidableEq, Repr

/-- What asks for a specifier to be resolved, in terms of plugins. -/
def ResolveKind.ofImport (entry : Bool) (kind : ImportKind) : ResolveKind :=
  if entry then .entryPoint
  else
    match kind with
    | .importStatement | .hotAccept => .importStatement
    | .dynamicImport => .dynamicImport
    | .requireCall => .requireCall
    | .atRule => .importRule
    | .urlImport | .newUrl => .urlToken

/-- The module that an answer of a plugin leads to. A relative path on disk is taken from the
directory of the importing module. -/
def ResolveAnswer.target (answer : ResolveAnswer) (specifier : String) (dir : Option String) :
    ResolvedId :=
  if answer.external then
    { id := if answer.path.isEmpty then specifier else answer.path, external := true }
  else
    let space := answer.targetSpace
    let id :=
      if Space.isFile space then
        match dir with
        | some dir =>
          if Path.isAbsolute answer.path then answer.path
          else Path.clean (Path.join dir answer.path)
        | none => answer.path
      else (ModuleRef.mk space answer.path).toId
    { id, external := false, sideEffects := answer.sideEffects }

namespace Bridge

variable [RegexEngine] {m : Type → Type}

/-- What the plugins are asked about a specifier. -/
def resolveRequest (bridge : Bridge m) (state : BridgeState) (specifier : String)
    (importer : Option String) (kind : ResolveKind) : ResolveRequest :=
  match importer with
  | none => { specifier, kind }
  | some id =>
    let ref := ModuleRef.ofId id
    { specifier, kind, importer := some ref.path, space := ref.space
      resolveDir := state.dirOf bridge.entry id }

/-- Where a specifier leads that no plugin handles. -/
def fallback (bridge : Bridge m) (specifier : String) (importer dir : Option String) : Route :=
  match importer with
  | none => .engine
  | some importer =>
    if bridge.externals.isExternal specifier then .found { id := specifier, external := true }
    else
      match dir with
      | some dir =>
        if importer = ModuleRef.sourceId || ModuleRef.isMarked importer then
          .delegate (Path.join dir ModuleRef.sourceId)
        else .engine
      | none => .engine

/-- What becomes of the plugins' answer about a specifier. -/
def settleResolve (bridge : Bridge m) (specifier : String) (importer : Option String)
    (result : Except HookFailure (Handling ResolveAnswer)) (state : BridgeState) :
    Route × BridgeState :=
  let dir := importer.bind (state.dirOf bridge.entry)
  match result with
  | .error failure => (.failed failure, state.record failure)
  | .ok (.handled plugin answer) =>
    (.found (answer.target specifier dir), state.warn plugin specifier answer.warnings)
  | .ok .unhandled => (bridge.fallback specifier importer dir, state)

/-- What becomes of the plugins' answer about the contents of a module. -/
def settleLoad (id : String) (result : Except HookFailure (Handling LoadAnswer))
    (state : BridgeState) : Loaded × BridgeState :=
  match result with
  | .error failure => (.failed failure, state.record failure)
  | .ok .unhandled => (.engine, state)
  | .ok (.handled plugin answer) =>
    let warned := state.warn plugin (ModuleRef.ofId id).path answer.warnings
    let kept :=
      match answer.resolveDir with
      | some dir => { warned with moduleDirs := warned.moduleDirs.insert id dir }
      | none => warned
    (.contents answer.contents (.ofLoader answer.loader), kept)

variable [Monad m]

/-- Where a specifier leads that a module imports, or an entry point if there is no importer. -/
def resolve (bridge : Bridge m) (specifier : String) (importer : Option String)
    (kind : ResolveKind) : StateT BridgeState m Route := fun state =>
  if importer = none ∧ specifier = ModuleRef.sourceId then
    pure (.found { id := ModuleRef.sourceId, external := false }, state)
  else do
    let result ← Dispatch.resolve bridge.plugins
      (bridge.resolveRequest state specifier importer kind)
    return bridge.settleResolve specifier importer result state

/-- What a module contains. -/
def load (bridge : Bridge m) (id : String) : StateT BridgeState m Loaded := fun state =>
  if id = ModuleRef.sourceId then
    pure (.contents bridge.entry.source (.ofLoader bridge.entry.loader), state)
  else do
    let ref := ModuleRef.ofId id
    let result ← Dispatch.load bridge.plugins ⟨ref.path, ref.space⟩
    return settleLoad id result state

end Bridge

end BundleHost
