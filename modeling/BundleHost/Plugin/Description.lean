import BundleHost.Plugin.Basic
import BundleHost.Text.Quoted

/-!
# Descriptions of plugins

A plugin as a developer sees it on one line: its name, which callbacks it has, and its rules
without their handlers.
-/

namespace BundleHost

variable [RegexEngine]

def describeFlag (b : Bool) : String := if b then "true" else "false"

def Rule.describe {m : Type → Type} {ρ α : Type} (kind : String) (rule : Rule m ρ α) : String :=
  let space :=
    match rule.restriction with
    | some space => "Some(" ++ Text.quote space ++ ")"
    | none => "None"
  kind ++ " \x7b filter: Filter(" ++ rule.filter.display ++ "), namespace: " ++ space ++
    ", .. \x7d"

def describeList (items : List String) : String := "[" ++ String.intercalate ", " items ++ "]"

def Plugin.describe {m : Type → Type} (plugin : Plugin m) : String :=
  "Plugin \x7b name: " ++ Text.quote plugin.name ++
    ", on_start: " ++ describeFlag plugin.onStart.isSome ++
    ", on_end: " ++ describeFlag plugin.onEnd.isSome ++
    ", resolve_rules: " ++ describeList (plugin.resolveRules.map (·.describe "ResolveRule")) ++
    ", load_rules: " ++ describeList (plugin.loadRules.map (·.describe "LoadRule")) ++ " \x7d"

end BundleHost
