import BundleHost.Externals
import BundleHost.Proofs.Plugin.VirtualModule

/-!
# The plugin for imports of packages

The plugin that leaves imports of packages outside goes by a pattern that is bound to the beginning
of the specifier. So the plugin takes just the specifiers that name a package, and it gives them
back as they were written.

## Main statements

* `Filter.occursIn_of_source_bareImports` — which specifiers the pattern is found in.
* `ExternalizesPackages.resolve_eq` — what the plugin answers.
-/

namespace BundleHost

theorem Filter.compile_bareImports [RegexEngine] [RegexEngine.LawfulPatterns] :
    ∃ program, RegexEngine.compile bareImports = .ok program ∧ ∀ text,
      RegexEngine.occursIn program text =
        text.toList.head?.any fun c => !(['.', '/'].contains c) := by
  have pattern : bareImports = "^[^" ++ String.ofList ['.', '/'] ++ "]" := rfl
  rw [pattern]
  exact RegexEngine.LawfulPatterns.compile_negatedSet (List.cons_ne_nil _ _) (by simp)
    (by simp [RegexEngine.isPlainInBrackets])

/-- The pattern is found in the specifiers that name a package. -/
theorem Filter.occursIn_of_source_bareImports [RegexEngine] [RegexEngine.LawfulPatterns]
    {filter : Filter} (h : filter.source = bareImports) (specifier : String) :
    filter.occursIn specifier = isBareSpecifier specifier := by
  obtain ⟨program, compiled, occurs⟩ := compile_bareImports
  rw [occursIn_of_source h compiled, occurs, isBareSpecifier]
  cases specifier.toList.head? with
  | none => rfl
  | some c => simp

/-! ## The plugin -/

variable [RegexEngine] {m : Type → Type} [Monad m]

/-- The answer that leaves an import outside as it was written. -/
def ResolveAnswer.leaveOutside : ResolveAnswer := { external := true }

/-- The plugin has one resolve rule, for the imports of packages, and does nothing else. -/
structure ExternalizesPackages (plugin : Plugin m) : Prop where
  resolveRules_eq : ∃ filter : Filter, filter.source = Filter.bareImports ∧ plugin.resolveRules =
    [⟨filter, none, fun _ => pure (.ok .leaveOutside)⟩]
  loadRules_eq : plugin.loadRules = []
  onStart_eq : plugin.onStart = none
  onEnd_eq : plugin.onEnd = none

theorem exists_build_externalizeBareImports [RegexEngine.LawfulPatterns] : ∃ plugin : Plugin m,
    PluginDraft.externalizeBareImports.build = .ok plugin ∧ ExternalizesPackages plugin := by
  obtain ⟨program, compiled, -⟩ := Filter.compile_bareImports
  have sound : (PluginDraft.externalizeBareImports : PluginDraft m).IsSound :=
    { named := (by decide : Text.trim "externalize-bare-imports" ≠ "")
      resolveRules := by
        rintro rule (_ | ⟨_, ⟨⟩⟩)
        exact ⟨⟨program, compiled⟩, nofun⟩
      loadRules := nofun }
  obtain ⟨plugin, built⟩ := PluginDraft.exists_build_iff.mpr sound
  have same := (PluginDraft.build_eq_ok_iff.mp built).2
  refine ⟨plugin, built, ?_⟩
  exact
    { resolveRules_eq := Rule.exists_filter_of_map_draft (congrArg PluginDraft.resolveRules same)
      loadRules_eq := List.map_eq_nil_iff.mp (congrArg PluginDraft.loadRules same)
      onStart_eq := congrArg PluginDraft.onStart same
      onEnd_eq := congrArg PluginDraft.onEnd same }

namespace ExternalizesPackages

variable {plugin : Plugin m} (h : ExternalizesPackages plugin)
include h

open Dispatch

/-- The plugin handles the specifiers that name a package, and leaves all others to whatever comes
after it. -/
theorem resolve_eq [RegexEngine.LawfulPatterns] [LawfulMonad m] (request : ResolveRequest) :
    resolve [plugin] request =
      pure (.ok (if isBareSpecifier request.specifier then .handled plugin.name .leaveOutside
        else .unhandled)) := by
  obtain ⟨filter, source, rules⟩ := h.resolveRules_eq
  have occurs : filter.occursIn request.specifier = isBareSpecifier request.specifier :=
    Filter.occursIn_of_source_bareImports source request.specifier
  by_cases bare : isBareSpecifier request.specifier = true
  · have claimed : claim? Plugin.resolveRules [plugin] request =
        some (plugin.name, ⟨filter, none, fun _ => pure (.ok .leaveOutside)⟩) := by
      simp [claim?, rules, Rule.matches, Space.admits, Addressed.subject, occurs, bare]
    simp [resolve, claimed, bare, checkResolve, ResolveAnswer.leaveOutside]
  · have unclaimed : claim? Plugin.resolveRules [plugin] request = none := by
      simp [claim?, rules, Rule.matches, Space.admits, Addressed.subject, occurs, bare]
    simp [resolve, unclaimed, bare]

/-- Contents are loaded as if the plugin were not there. -/
theorem load_append_eq (plugins : List (Plugin m)) (request : LoadRequest) :
    load (plugins ++ [plugin]) request = load plugins request := by
  have unclaimed : claim? Plugin.loadRules [plugin] request = none := by
    simp [claim?, h.loadRules_eq]
  simp only [load, claim?_append, unclaimed, Option.or_none]

end ExternalizesPackages

end BundleHost
