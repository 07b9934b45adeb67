import BundleHost.Plugin.Basic

/-!
# Plugins in common use
-/

namespace BundleHost.PluginDraft

variable {m : Type → Type} [Monad m]

/-- Serves fixed contents for the specifiers that match a pattern, in a namespace of its own. -/
def virtualModule (name pattern space contents : String) (loader : Loader) : PluginDraft m :=
  (({ name } : PluginDraft m).addResolve pattern none fun request =>
      pure (.ok { path := request.specifier, space := some space })).addLoad
    Filter.all (some space) fun _ => pure (.ok { contents, loader })

/-- Replaces imports of `react` by a module that exports a global value. -/
def reactGlobal (global : String) : PluginDraft m :=
  virtualModule "react-global" Filter.react "global-react" ("module.exports = " ++ global) .js

/-- Leaves every import of a package outside the output, as it was written. -/
def externalizeBareImports : PluginDraft m :=
  ({ name := "externalize-bare-imports" } : PluginDraft m).addResolve Filter.bareImports none
    fun _ => pure (.ok { external := true })

end BundleHost.PluginDraft
