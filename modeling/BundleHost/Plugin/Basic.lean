import BundleHost.Hook.Basic
import BundleHost.Plugin.Filter
import BundleHost.Text.Basic

/-!
# Plugins

A plugin is a named collection of callbacks and rules. Its handlers act in a monad of the host's
choice and fail with a message. A plugin is built from a draft, which has patterns where the plugin
has filters.
-/

namespace BundleHost

/-- A function of a plugin, which may fail with a message. -/
abbrev Handler (m : Type → Type) (ρ α : Type) : Type := ρ → m (Except String α)

variable [RegexEngine]

/-- A filter, a restriction to a namespace, and the handler of requests that pass both. -/
structure Rule (m : Type → Type) (ρ α : Type) where
  filter : Filter
  restriction : Option String
  handler : Handler m ρ α

def Rule.matches {m : Type → Type} {ρ α : Type} [Addressed ρ] (rule : Rule m ρ α)
    (request : ρ) : Bool :=
  Space.admits rule.restriction (Addressed.space request) &&
    rule.filter.occursIn (Addressed.subject request)

structure Plugin (m : Type → Type) where
  name : String
  onStart : Option (Handler m Unit Unit)
  onEnd : Option (Handler m EndReport Unit)
  resolveRules : List (Rule m ResolveRequest ResolveAnswer)
  loadRules : List (Rule m LoadRequest LoadAnswer)

/-- Why a draft is no plugin. -/
inductive PluginError where
  | emptyName
  /-- A filter that the engine does not compile, with what it says about it. -/
  | invalidFilter (plugin filter fault : String)
  | invalidSpace (plugin space : String)
  deriving DecidableEq, Repr

/-- The message about an invalid filter up to what the engine says about it. -/
def PluginError.filterHeading (plugin filter : String) : String :=
  "plugin '" ++ plugin ++ "' has an invalid filter /" ++ filter ++ "/"

def PluginError.message : PluginError → String
  | .emptyName => "plugin name cannot be empty"
  | .invalidFilter plugin filter fault => filterHeading plugin filter ++ ": " ++ fault
  | .invalidSpace plugin space =>
    "plugin '" ++ plugin ++ "' uses invalid namespace '" ++ space ++ "'"

/-- A rule whose pattern and namespace were not yet checked. -/
structure RuleDraft (m : Type → Type) (ρ α : Type) where
  pattern : String
  restriction : Option String
  handler : Handler m ρ α

/-- Checks the pattern, then the namespace. -/
def RuleDraft.build {m : Type → Type} {ρ α : Type} (plugin : String) (draft : RuleDraft m ρ α) :
    Except PluginError (Rule m ρ α) :=
  match Filter.ofPattern draft.pattern with
  | .error fault => .error (.invalidFilter plugin draft.pattern fault)
  | .ok filter =>
    match draft.restriction.filter (!Space.isValid ·) with
    | some space => .error (.invalidSpace plugin space)
    | none => .ok ⟨filter, draft.restriction, draft.handler⟩

/-- A plugin in the making. -/
structure PluginDraft (m : Type → Type) where
  name : String
  onStart : Option (Handler m Unit Unit) := none
  onEnd : Option (Handler m EndReport Unit) := none
  resolveRules : List (RuleDraft m ResolveRequest ResolveAnswer) := []
  loadRules : List (RuleDraft m LoadRequest LoadAnswer) := []

namespace PluginDraft

variable {m : Type → Type}

/-- Adds a resolve rule, restricted to importing modules of a namespace if one is given. -/
def addResolve (draft : PluginDraft m) (pattern : String) (restriction : Option String)
    (handler : Handler m ResolveRequest ResolveAnswer) : PluginDraft m :=
  { draft with resolveRules := draft.resolveRules ++ [⟨pattern, restriction, handler⟩] }

/-- Adds a load rule, restricted to modules of a namespace if one is given. -/
def addLoad (draft : PluginDraft m) (pattern : String) (restriction : Option String)
    (handler : Handler m LoadRequest LoadAnswer) : PluginDraft m :=
  { draft with loadRules := draft.loadRules ++ [⟨pattern, restriction, handler⟩] }

def setOnStart (draft : PluginDraft m) (handler : Handler m Unit Unit) : PluginDraft m :=
  { draft with onStart := some handler }

def setOnEnd (draft : PluginDraft m) (handler : Handler m EndReport Unit) : PluginDraft m :=
  { draft with onEnd := some handler }

/-- The rules of all drafts, or the failure of the first that cannot be built. -/
def buildRules {ρ α : Type} (plugin : String) :
    List (RuleDraft m ρ α) → Except PluginError (List (Rule m ρ α))
  | [] => .ok []
  | draft :: rest => do
    let rule ← draft.build plugin
    let rules ← buildRules plugin rest
    .ok (rule :: rules)

/-- Checks the name, then the resolve rules, then the load rules. -/
def build (draft : PluginDraft m) : Except PluginError (Plugin m) :=
  if Text.isBlank draft.name then .error .emptyName
  else do
    let resolveRules ← buildRules draft.name draft.resolveRules
    let loadRules ← buildRules draft.name draft.loadRules
    .ok ⟨draft.name, draft.onStart, draft.onEnd, resolveRules, loadRules⟩

end PluginDraft

end BundleHost
