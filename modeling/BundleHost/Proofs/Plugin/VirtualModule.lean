import BundleHost.Plugin.Preset
import BundleHost.Proofs.Dispatch.FirstRule
import BundleHost.Proofs.Plugin.Building
import BundleHost.Proofs.Regex.Laws
import Mathlib.Data.List.Forall2

/-!
# Plugins for fixed contents

A plugin for fixed contents leads the specifiers in which its pattern occurs into its namespace, and
serves its contents for every path of that namespace. Among several such plugins a specifier goes by
the patterns, but the contents go by the namespaces alone.

## Main statements

* `shapes_of_build` — which rules the plugin has.
* `resolve_of_first`, `load_of_first` — what several such plugins answer.
-/

namespace BundleHost

/-- An item of a list with a property that no item in front of it has. -/
inductive FirstSuch {α : Type} (p : α → Prop) : List α → α → Prop
  | head {x : α} {rest : List α} (holds : p x) : FirstSuch p (x :: rest) x
  | tail {x y : α} {rest : List α} (skipped : ¬ p x) (later : FirstSuch p rest y) :
      FirstSuch p (x :: rest) y

namespace FirstSuch

variable {α : Type} {p : α → Prop} {items : List α} {x : α}

theorem mem (h : FirstSuch p items x) : x ∈ items := by
  induction h with
  | head => exact List.mem_cons_self
  | tail _ _ ih => exact List.mem_cons_of_mem _ ih

theorem holds (h : FirstSuch p items x) : p x := by
  induction h with
  | head holds => exact holds
  | tail _ _ ih => exact ih

theorem unique {y : α} (h : FirstSuch p items x) (h' : FirstSuch p items y) : x = y := by
  induction h with
  | head holds =>
    cases h' with
    | head => rfl
    | tail skipped => exact absurd holds skipped
  | tail skipped _ ih =>
    cases h' with
    | head holds => exact absurd holds skipped
    | tail _ later => exact ih later

end FirstSuch

theorem exists_firstSuch {α : Type} {p : α → Prop} {items : List α} (h : ∃ x ∈ items, p x) :
    ∃ x, FirstSuch p items x := by
  induction items with
  | nil => simp at h
  | cons item rest ih =>
    by_cases here : p item
    · exact ⟨item, .head here⟩
    · obtain ⟨x, member, holds⟩ := h
      obtain rfl | later := List.mem_cons.mp member
      · exact absurd holds here
      · obtain ⟨y, first⟩ := ih ⟨x, later, holds⟩
        exact ⟨y, .tail here first⟩

/-! ## Patterns and namespaces -/

/-- The source of a filter tells where it occurs. -/
theorem Filter.occursIn_of_source [RegexEngine] {filter : Filter} {pattern text : String}
    {program : RegexEngine.Program} (source : filter.source = pattern)
    (compiled : RegexEngine.compile pattern = .ok program) :
    filter.occursIn text = RegexEngine.occursIn program text := by
  have own := filter.compile_source
  rw [source, compiled] at own
  rw [occursIn, Except.ok.inj own]

theorem Filter.occursIn_of_source_all [RegexEngine] [RegexEngine.LawfulPatterns] {filter : Filter}
    (h : filter.source = all) (text : String) : filter.occursIn text = true := by
  obtain ⟨program, compiled, everywhere⟩ := RegexEngine.LawfulPatterns.compile_anything
  rw [occursIn_of_source h compiled, everywhere]

theorem Space.isFile_iff_of_isValid {space : String} (valid : isValid space = true) :
    isFile space = true ↔ space = file := by
  rw [isFile_iff, or_iff_right (isValid_iff.mp valid).1]

/-- Of namespaces that can be one, a restriction admits only its own. -/
theorem Space.admits_some_iff {only space : String} (valid : isValid only = true)
    (valid' : isValid space = true) : admits (some only) space = true ↔ only = space := by
  by_cases file : isFile only = true
  · rw [admits, if_pos file, isFile_iff_of_isValid valid', (isFile_iff_of_isValid valid).mp file,
      eq_comm]
  · rw [admits, if_neg file, decide_eq_true_eq]

/-! ## The plugin -/

/-- What a plugin for fixed contents is made from. -/
structure VirtualModule where
  name : String
  /-- Which specifiers are led to the contents. -/
  pattern : String
  space : String
  contents : String
  loader : Loader
  deriving DecidableEq, Repr

namespace VirtualModule

variable [RegexEngine] {m : Type → Type} [Monad m]

def draft (v : VirtualModule) : PluginDraft m :=
  .virtualModule v.name v.pattern v.space v.contents v.loader

/-- The pattern occurs in the specifier. -/
def Catches (v : VirtualModule) (specifier : String) : Prop :=
  ∃ filter, Filter.ofPattern? v.pattern = some filter ∧ filter.occursIn specifier = true

theorem catches_iff {v : VirtualModule} {specifier : String} :
    v.Catches specifier ↔
      (Filter.ofPattern? v.pattern).any (·.occursIn specifier) = true := by
  rw [Catches, Option.any_eq_true]

instance (v : VirtualModule) (specifier : String) : Decidable (v.Catches specifier) :=
  decidable_of_iff _ catches_iff.symm

def resolveAnswer (v : VirtualModule) (specifier : String) : ResolveAnswer :=
  { path := specifier, space := some v.space }

def loadAnswer (v : VirtualModule) : LoadAnswer := { contents := v.contents, loader := v.loader }

/-- The plugin has one rule for the specifiers that are caught, and one for all paths of the
namespace. -/
structure Shapes (v : VirtualModule) (plugin : Plugin m) : Prop where
  isValid_space : Space.isValid v.space = true
  resolveRules_eq : ∃ filter : Filter, filter.source = v.pattern ∧ plugin.resolveRules =
    [⟨filter, none, fun request => pure (.ok (v.resolveAnswer request.specifier))⟩]
  loadRules_eq : ∃ filter : Filter, filter.source = Filter.all ∧ plugin.loadRules =
    [⟨filter, some v.space, fun _ => pure (.ok v.loadAnswer)⟩]

variable {v : VirtualModule} {plugin : Plugin m}

theorem shapes_of_build (h : v.draft.build = .ok plugin) : v.Shapes plugin := by
  obtain ⟨sound, same⟩ := PluginDraft.build_eq_ok_iff.mp h
  have loads := sound.loadRules _ List.mem_cons_self
  exact
    { isValid_space := Space.isValid_iff.mpr (loads.isName _ rfl)
      resolveRules_eq := Rule.exists_filter_of_map_draft (congrArg PluginDraft.resolveRules same)
      loadRules_eq := Rule.exists_filter_of_map_draft (congrArg PluginDraft.loadRules same) }

/-! ## Several of these plugins -/

/-- Each plugin is built from the preset in the same place. -/
def Built (modules : List VirtualModule) (plugins : List (Plugin m)) : Prop :=
  List.Forall₂ (fun v plugin => v.draft.build = .ok plugin) modules plugins

theorem isValid_of_mem {modules : List VirtualModule} {plugins : List (Plugin m)}
    (built : Built modules plugins) (member : v ∈ modules) : Space.isValid v.space = true := by
  induction built with
  | nil => cases member
  | cons built _ ih =>
    obtain rfl | later := List.mem_cons.mp member
    · exact (shapes_of_build built).isValid_space
    · exact ih later

/-- The only rule that a plugin has for a request tells whether its preset is meant, and what it
answers. -/
def AnswersBy {ρ α : Type} [Addressed ρ] (rules : List (Rule m ρ α)) (request : ρ)
    (meant : Prop) (answer : α) : Prop :=
  ∃ rule, rules = [rule] ∧ (rule.matches request = true ↔ meant) ∧
    rule.handler request = pure (.ok answer)

theorem Shapes.answersBy_resolve (h : v.Shapes plugin) (request : ResolveRequest) :
    AnswersBy plugin.resolveRules request (v.Catches request.specifier)
      (v.resolveAnswer request.specifier) := by
  obtain ⟨filter, source, rules⟩ := h.resolveRules_eq
  refine ⟨_, rules, ?_, rfl⟩
  simp only [Rule.matches, Space.admits, Bool.true_and, Catches, Addressed.subject,
    Filter.ofPattern?_eq_some_iff]
  constructor
  · exact fun occurs => ⟨filter, source, occurs⟩
  · rintro ⟨other, same, occurs⟩
    rwa [Filter.eq_of_source_eq (source.trans same.symm)]

theorem Shapes.answersBy_load [RegexEngine.LawfulPatterns] (h : v.Shapes plugin)
    {request : LoadRequest} (valid : Space.isValid request.space = true) :
    AnswersBy plugin.loadRules request (v.space = request.space) v.loadAnswer := by
  obtain ⟨filter, source, rules⟩ := h.loadRules_eq
  refine ⟨_, rules, ?_, rfl⟩
  rw [Rule.matches, Filter.occursIn_of_source_all source, Bool.and_true]
  exact Space.admits_some_iff h.isValid_space valid

section Claim

open Dispatch

variable {ρ α : Type} [Addressed ρ] {rules : Plugin m → List (Rule m ρ α)} {request : ρ}
  {meant : VirtualModule → Prop} {answer : VirtualModule → α}
  {modules : List VirtualModule} {plugins : List (Plugin m)} {served : VirtualModule}

/-- The request is claimed by the plugin of the first preset that is meant. -/
theorem claim?_of_first (built : Built modules plugins)
    (answers : ∀ {v plugin}, v.Shapes plugin →
      AnswersBy (rules plugin) request (meant v) (answer v))
    (first : FirstSuch meant modules served) :
    ∃ name rule, claim? rules plugins request = some (name, rule) ∧
      rule.handler request = pure (.ok (answer served)) := by
  induction first generalizing plugins with
  | head holds =>
    obtain ⟨plugin, others, here, -, rfl⟩ := List.forall₂_cons_left_iff.mp built
    obtain ⟨rule, single, matches_iff, response⟩ := answers (shapes_of_build here)
    refine ⟨plugin.name, rule, ?_, response⟩
    simp [claim?, single, matches_iff.mpr holds]
  | tail skipped _ ih =>
    obtain ⟨plugin, others, here, rest, rfl⟩ := List.forall₂_cons_left_iff.mp built
    obtain ⟨rule, single, matches_iff, -⟩ := answers (shapes_of_build here)
    obtain ⟨name, later, claimed, response⟩ := ih rest
    refine ⟨name, later, ?_, response⟩
    simp only [claim?, List.findSome?_cons, single, List.find?_singleton,
      if_neg (mt matches_iff.mp skipped), Option.map_none]
    exact claimed

end Claim

section Answers

open Dispatch

variable [LawfulMonad m] {modules : List VirtualModule} {plugins : List (Plugin m)}
  {served : VirtualModule}

/-- A specifier is led into the namespace of the first preset that catches it. -/
theorem resolve_of_first (built : Built modules plugins) (request : ResolveRequest)
    (first : FirstSuch (·.Catches request.specifier) modules served) :
    ∃ name, resolve plugins request =
      pure (.ok (.handled name (served.resolveAnswer request.specifier))) := by
  obtain ⟨name, rule, claimed, response⟩ :=
    claim?_of_first built (fun shapes => shapes.answersBy_resolve request) first
  have valid : ∀ space ∈ (served.resolveAnswer request.specifier).space,
      Space.isValid space = true := by
    rintro _ ⟨⟩
    exact isValid_of_mem built first.mem
  refine ⟨name, ?_⟩
  simp only [resolve, claimed, response, pure_bind, checkResolve_of_valid name valid]

/-- The contents of a module are those of the first preset with its namespace. -/
theorem load_of_first [RegexEngine.LawfulPatterns] (built : Built modules plugins)
    (request : LoadRequest) (valid : Space.isValid request.space = true)
    (first : FirstSuch (·.space = request.space) modules served) :
    ∃ name, load plugins request = pure (.ok (.handled name served.loadAnswer)) := by
  obtain ⟨name, rule, claimed, response⟩ :=
    claim?_of_first built (fun shapes => shapes.answersBy_load valid) first
  exact ⟨name, by simp only [load, claimed, response, pure_bind, checkLoad]⟩

end Answers

end VirtualModule

end BundleHost
