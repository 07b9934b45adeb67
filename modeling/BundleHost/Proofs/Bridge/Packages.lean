import BundleHost.Proofs.Bridge.History
import BundleHost.Proofs.Plugin.BareImports

/-!
# Two ways to leave packages outside

Imports of packages stay outside if the settings say so, or if the plugin for them is attached
behind all others. Both leave the imports of modules alone until the other plugins have declined
them, and both give back the specifier as it was written, so whatever a module imports leads to the
same place. Entry points are no imports: the plugin takes them, and the settings do not.

## Main statements

* `ExternalPolicy.isExternal_assign_packages` — what the settings add to what stays outside.
* `resolve_beside`, `load_beside` — the bridge does the same for every call.
* `packages_outside_two_ways` — it does the same for all calls that modules lead to.
-/

namespace BundleHost

/-! ## Settings -/

/-- Making packages external adds the specifiers that name one, and nothing else. -/
theorem ExternalPolicy.isExternal_assign_packages (settings : BuildSettings) (specifier : String) :
    (forBuild (settings.assign .packages .external)).isExternal specifier =
      ((forBuild settings).isExternal specifier || isBareSpecifier specifier) := by
  have packages : (settings.assign .packages .external).packages = .external := by
    rw [BuildSettings.packages, BuildSettings.value, Slots.value]
    exact congrArg (Option.getD · _) (Slots.explicit?_update_self _ _ _)
  have bundle : (settings.assign .packages .external).bundle = settings.bundle := by
    rw [BuildSettings.bundle, BuildSettings.value, Slots.value]
    exact congrArg (Option.getD · _) (Slots.explicit?_update_of_ne _ (by decide) _)
  have external : (settings.assign .packages .external).external = settings.external := rfl
  simp only [isExternal, forBuild, packages, bundle, external, decide_true, Bool.true_and]
  cases isBareSpecifier specifier <;> simp

namespace Bridge

section AnyEngine

variable [RegexEngine] {m : Type → Type} (plugins : List (Plugin m)) (plugin : Plugin m)
  (entry : SourceEntry) (settings : BuildSettings)

/-- The bridge of a build with a further plugin behind all others. -/
def beside : Bridge m := ⟨plugins ++ [plugin], entry, .forBuild settings⟩

/-- The bridge of a build that has packages external. -/
def withPackagesExternal : Bridge m :=
  ⟨plugins, entry, .forBuild (settings.assign .packages .external)⟩

/-- A call that a module leads to: it asks for an import of one, or for its contents. -/
def Call.OfModule : Call → Prop
  | .resolve question => question.importer.isSome
  | .load _ => True

variable {plugins plugin entry settings}

/-! ## Imports that no other plugin handles -/

/-- The plugin's answer leads to the specifier as it was written. -/
theorem settleResolve_leaveOutside (bridge : Bridge m) (name specifier : String)
    (importer : Option String) (state : BridgeState) :
    bridge.settleResolve specifier importer (.ok (.handled name .leaveOutside)) state =
      (.found ⟨specifier, true, none⟩, state) := by
  simp [settleResolve, ResolveAnswer.target, ResolveAnswer.leaveOutside, BridgeState.warn]

theorem settleResolve_of_bare {specifier : String} (bare : isBareSpecifier specifier = true)
    (importer : String) (state : BridgeState) :
    (withPackagesExternal plugins entry settings).settleResolve specifier (some importer)
      (.ok .unhandled) state = (.found ⟨specifier, true, none⟩, state) := by
  have outside : (withPackagesExternal plugins entry settings).externals.isExternal specifier =
      true := by
    rw [withPackagesExternal, ExternalPolicy.isExternal_assign_packages, bare, Bool.or_true]
  simp [settleResolve, fallback, outside]

theorem settleResolve_of_not_bare {specifier : String} (other : isBareSpecifier specifier = false)
    (importer : String) (state : BridgeState) :
    (beside plugins plugin entry settings).settleResolve specifier (some importer)
        (.ok .unhandled) state =
      (withPackagesExternal plugins entry settings).settleResolve specifier (some importer)
        (.ok .unhandled) state := by
  have outside : (withPackagesExternal plugins entry settings).externals.isExternal specifier =
      (beside plugins plugin entry settings).externals.isExternal specifier := by
    rw [withPackagesExternal, ExternalPolicy.isExternal_assign_packages, other, Bool.or_false,
      beside]
  simp only [settleResolve, fallback, outside, Option.bind_some]
  rfl

/-! ## Calls -/

section Calls

theorem resolve_of_import [Monad m] (bridge : Bridge m) (specifier importer : String)
    (kind : ResolveKind) (state : BridgeState) :
    bridge.resolve specifier (some importer) kind state = do
      let result ← Dispatch.resolve bridge.plugins
        (bridge.resolveRequest state specifier (some importer) kind)
      return bridge.settleResolve specifier (some importer) result state := by
  unfold resolve
  exact if_neg (by simp)

variable [Monad m] [LawfulMonad m]

/-- The result of the other plugins, and the answer of the plugin where they have none, come to what
the result alone comes to if packages are external. -/
theorem settleResolve_elseResolve (name specifier importer : String) (state : BridgeState)
    (result : Except HookFailure (Handling ResolveAnswer)) :
    (do
      let result ← Dispatch.elseResolve (m := m) (pure (.ok (if isBareSpecifier specifier then
        .handled name .leaveOutside else .unhandled))) result
      return (beside plugins plugin entry settings).settleResolve specifier (some importer) result
        state) =
      pure ((withPackagesExternal plugins entry settings).settleResolve specifier (some importer)
        result state) := by
  match result with
  | .error failure => exact pure_bind _ _
  | .ok (.handled other answer) => exact pure_bind _ _
  | .ok .unhandled =>
    rw [Dispatch.elseResolve, pure_bind]
    cases bare : isBareSpecifier specifier with
    | true => simp [settleResolve_leaveOutside, settleResolve_of_bare bare]
    | false => simp [settleResolve_of_not_bare bare]

variable (h : ExternalizesPackages plugin)
include h

/-- An import leads to the same place and changes the state in the same way. -/
theorem resolve_beside [RegexEngine.LawfulPatterns] (specifier importer : String)
    (kind : ResolveKind) :
    (beside plugins plugin entry settings).resolve specifier (some importer) kind =
      (withPackagesExternal plugins entry settings).resolve specifier (some importer) kind := by
  funext state
  -- What the plugins are asked depends neither on the plugins nor on the settings.
  have asked : (beside plugins plugin entry settings).resolveRequest state specifier
      (some importer) kind =
    (withPackagesExternal plugins entry settings).resolveRequest state specifier
      (some importer) kind := rfl
  have attached : (beside plugins plugin entry settings).plugins =
    (withPackagesExternal plugins entry settings).plugins ++ [plugin] := rfl
  rw [resolve_of_import, resolve_of_import, asked, attached, Dispatch.resolve_append, h.resolve_eq,
    bind_assoc]
  exact bind_congr fun result =>
    settleResolve_elseResolve plugin.name specifier importer state result

omit [LawfulMonad m] in
/-- Contents are the same, since the plugin loads nothing. -/
theorem load_beside (id : String) :
    (beside plugins plugin entry settings).load id =
      (withPackagesExternal plugins entry settings).load id := by
  funext state
  unfold load
  split
  · rfl
  · simp only [beside, withPackagesExternal, h.load_append_eq]

theorem answer_beside [RegexEngine.LawfulPatterns] {call : Call} (ofModule : call.OfModule) :
    (beside plugins plugin entry settings).answer call =
      (withPackagesExternal plugins entry settings).answer call := by
  cases call with
  | resolve question =>
    obtain ⟨importer, imported⟩ := Option.isSome_iff_exists.mp ofModule
    simp only [answer, imported, resolve_beside h]
  | load id => simp only [answer, load_beside h]

theorem answerAll_beside [RegexEngine.LawfulPatterns] {calls : List Call}
    (ofModules : ∀ call ∈ calls, call.OfModule) :
    (beside plugins plugin entry settings).answerAll calls =
      (withPackagesExternal plugins entry settings).answerAll calls := by
  induction calls with
  | nil => rfl
  | cons call rest ih =>
    have first : (beside plugins plugin entry settings).answer call =
        (withPackagesExternal plugins entry settings).answer call :=
      answer_beside h (ofModules call List.mem_cons_self)
    have later := ih fun other member => ofModules other (List.mem_cons_of_mem call member)
    unfold answerAll at later ⊢
    rw [List.mapM_cons, List.mapM_cons, first, later]

end Calls

/-- Whatever else the settings say and whichever plugins are attached, the plugin for imports of
packages does to the calls of modules what external packages do: its filter occurs in the specifiers
that name a package, an import leads to the same place and leaves the same state behind, and so do
all calls that modules lead to, one after the other. -/
theorem packages_outside_two_ways [RegexEngine.LawfulPatterns] {m : Type → Type} [Monad m]
    [LawfulMonad m] :
    ∃ (plugin : Plugin m) (filter : Filter),
      PluginDraft.externalizeBareImports.build = .ok plugin ∧
      Filter.ofPattern? Filter.bareImports = some filter ∧
      (∀ specifier, filter.occursIn specifier = isBareSpecifier specifier) ∧
      ∀ plugins entry settings,
        (∀ specifier importer kind state,
          (beside plugins plugin entry settings).resolve specifier (some importer) kind state =
            (withPackagesExternal plugins entry settings).resolve specifier (some importer) kind
              state) ∧
        ∀ calls : List Call, (∀ call ∈ calls, call.OfModule) →
          (beside plugins plugin entry settings).answerAll calls =
            (withPackagesExternal plugins entry settings).answerAll calls := by
  obtain ⟨plugin, built, externalizes⟩ := exists_build_externalizeBareImports (m := m)
  obtain ⟨filter, source, -⟩ := externalizes.resolveRules_eq
  refine ⟨plugin, filter, built, Filter.ofPattern?_eq_some_iff.mpr source,
    Filter.occursIn_of_source_bareImports source, fun plugins entry settings => ⟨?_, ?_⟩⟩
  · intro specifier importer kind state
    rw [resolve_beside externalizes]
  · intro calls ofModules
    exact answerAll_beside externalizes ofModules

end AnyEngine

/-- A plugin that leads imports of `react` to a file. -/
def leadingReact : Plugin Id where
  name := "react"
  onStart := none
  onEnd := none
  resolveRules := [⟨⟨"^react$", _, rfl⟩, none, fun _ => pure (.ok { path := "/react.js" })⟩]
  loadRules := []

/-- In a build that bundles: a package that another plugin handles, one that begins with a line
break, and the empty specifier. -/
theorem packages_outside_two_ways_bundling : ∃ plugin : Plugin Id,
    PluginDraft.externalizeBareImports.build = .ok plugin ∧
      let bridge := beside [leadingReact] plugin ⟨"", .js, "/"⟩
        (({ external := ["*.png"] } : BuildSettings).assign .bundle true)
      bridge.resolve "react" (some "/a.js") .importStatement {} =
          (.found ⟨"/react.js", false, none⟩, {}) ∧
        bridge.resolve "\né" (some "/a.js") .requireCall {} = (.found ⟨"\né", true, none⟩, {}) ∧
        bridge.resolve "" (some "/a.js") .dynamicImport {} = (.engine, {}) := by
  obtain ⟨plugin, -, built, -, -, same⟩ := packages_outside_two_ways (m := Id)
  refine ⟨plugin, built, ?_, ?_, ?_⟩
  · rw [(same _ _ _).1]
    rfl
  · rw [(same _ _ _).1]
    rfl
  · rw [(same _ _ _).1]
    rfl

end Bridge

end BundleHost
