import BundleHost.Proofs.Enumeration
import BundleHost.Proofs.Plan.Carried

/-!
# What the output has to suit

The engine is told the language level and the runtimes as one list of texts, in which a runtime's
name and version stand without a mark between them. No name of a runtime begins with another one,
and no level's name begins with that of a runtime, so that the list can be read back, whatever the
versions are.

## Main statements

* `EngineVersion.target_injective`, `EngineVersion.target_ne_name` — what one text of the list
  stands for.
* `SharedSettings.targetNames_inj` — the list can be read back.
* `SharedSettings.targets_of_engineOptions` — the targets in the options of the engine.
-/

namespace BundleHost

/-! ## Names in front of other texts -/

namespace Enumeration

/-- No member's name begins with that of another one. -/
def PrefixFree (α : Type) [Enumeration α] : Prop :=
  ∀ a b : α, (name a).toList <+: (name b).toList → a = b

/-- Names in front of any texts can be told apart. -/
theorem PrefixFree.append_inj {α : Type} [Enumeration α] (free : PrefixFree α) {a b : α}
    {x y : String} : name a ++ x = name b ++ y ↔ a = b ∧ x = y := by
  constructor
  · intro same
    have chars : (name a).toList ++ x.toList = (name b).toList ++ y.toList := by
      rw [← String.toList_append, same, String.toList_append]
    have first : (name a).toList <+: (name a).toList ++ x.toList := List.prefix_append _ _
    have second : (name b).toList <+: (name a).toList ++ x.toList := ⟨_, chars.symm⟩
    obtain rfl : a = b := (List.prefix_or_prefix_of_prefix first second).elim
      (free a b) fun before => (free b a before).symm
    exact ⟨rfl, String.append_right_inj (name a) |>.mp same⟩
  · rintro ⟨rfl, rfl⟩
    rfl

end Enumeration

open Enumeration

theorem prefixFree_engineName : PrefixFree EngineName := by
  have listed : ∀ a ∈ members, ∀ b ∈ members,
      (name (a : EngineName)).toList <+: (name (b : EngineName)).toList → a = b := by
    decide +kernel
  intro a b
  exact listed a (Lawful.mem_members a) b (Lawful.mem_members b)

theorem not_prefix_name_target (engine : EngineName) (level : Target) :
    ¬ (name engine).toList <+: (name level).toList := by
  have listed : ∀ engine ∈ (members : List EngineName), ∀ level ∈ (members : List Target),
      ¬ (name engine).toList <+: (name level).toList := by
    decide +kernel
  exact listed engine (Lawful.mem_members engine) level (Lawful.mem_members level)

namespace EngineVersion

/-- A runtime is read back from its text. -/
theorem target_injective : Function.Injective target := by
  rintro ⟨runtime, version⟩ ⟨runtime', version'⟩ same
  obtain ⟨rfl, rfl⟩ : runtime = runtime' ∧ version = version' :=
    prefixFree_engineName.append_inj.mp same
  rfl

/-- No runtime is taken for a language level. -/
theorem target_ne_name (engine : EngineVersion) (level : Target) :
    engine.target ≠ Enumeration.name level := by
  intro same
  refine not_prefix_name_target engine.name level ⟨engine.version.toList, ?_⟩
  rw [← String.toList_append, ← same, target]

end EngineVersion

/-! ## The list of targets -/

theorem TargetList.ofList_injective : Function.Injective ofList := by
  intro a b same
  rw [← toList_ofList a, same, toList_ofList]

namespace SharedSettings

/-- The language level that the engine is told. -/
def level? (settings : SharedSettings) : Option Target :=
  if settings.target = .esNext ∨ settings.target = .es5 then none else some settings.target

theorem targetNames_eq (settings : SharedSettings) :
    settings.targetNames =
      settings.level?.toList.map name ++ settings.engines.map EngineVersion.target := by
  unfold targetNames level?
  cases settings.target <;> rfl

/-- The list can be read back: what it begins with tells whether there is a language level. -/
theorem targetNames_inj {a b : SharedSettings} :
    a.targetNames = b.targetNames ↔ a.level? = b.level? ∧ a.engines = b.engines := by
  have engines := EngineVersion.target_injective.list_map.eq_iff (a := a.engines) (b := b.engines)
  have other (level : Target) (engines rest : List EngineVersion) :
      name level :: rest.map EngineVersion.target ≠ engines.map EngineVersion.target := by
    cases engines with
    | nil => nofun
    | cons engine _ => exact fun same => engine.target_ne_name level (List.cons.inj same).1.symm
  rw [targetNames_eq, targetNames_eq]
  cases a.level? with
  | none =>
    cases b.level? with
    | none => simpa using engines
    | some level => simpa using (other level a.engines b.engines).symm
  | some level =>
    cases b.level? with
    | none => simpa using other level b.engines a.engines
    | some level' => simp [engines, name_injective.eq_iff]

/-- How many texts the targets of settings are. -/
def targetCount (settings : SharedSettings) : Nat :=
  (if settings.target = .esNext then 0 else 1) + settings.engines.length

/-- Targets have everything that settings say of what the output has to suit. -/
structure TellsAll (settings : SharedSettings) (targets : TargetList) : Prop where
  /-- The language level comes first. -/
  toList_eq : targets.toList =
    (if settings.target = .esNext then [] else [name settings.target]) ++
      settings.engines.map EngineVersion.target
  unrestricted_iff : targets = .unrestricted ↔ settings.targetCount = 0
  one_iff : (∃ target, targets = .one target) ↔ settings.targetCount = 1
  many_iff : (∃ targets', targets = .many targets') ↔ 2 ≤ settings.targetCount

/-- The form of the targets tells how many there are. -/
theorem tellsAll_ofList {settings : SharedSettings} (early : settings.target ≠ .es5) :
    settings.TellsAll (.ofList settings.targetNames) := by
  have listed : settings.targetNames =
      (if settings.target = .esNext then [] else [name settings.target]) ++
        settings.engines.map EngineVersion.target := by
    rw [targetNames_eq, level?]
    by_cases newest : settings.target = .esNext <;> simp [newest, early]
  have count : settings.targetCount = settings.targetNames.length := by
    rw [listed, targetCount, List.length_append, List.length_map]
    split <;> rfl
  refine ⟨by rw [TargetList.toList_ofList, listed], ?_, ?_, ?_⟩ <;> rw [count] <;>
    rcases settings.targetNames with _ | ⟨first, _ | ⟨second, rest⟩⟩ <;>
    simp [TargetList.ofList]

/-- Targets tell the settings that they were made of. -/
theorem targets_of_engineOptions {a b : SharedSettings} (early : a.target ≠ .es5)
    (early' : b.target ≠ .es5) (format format' : OutputFormat) (cwd cwd' : String)
    (bundling bundling' : Bool) :
    a.TellsAll (a.engineOptions format cwd bundling).targets ∧
      ((a.engineOptions format cwd bundling).targets =
          (b.engineOptions format' cwd' bundling').targets ↔
        a.target = b.target ∧ a.engines = b.engines) := by
  refine ⟨tellsAll_ofList early, ?_⟩
  have level : a.level? = b.level? ↔ a.target = b.target := by
    unfold level?
    grind
  rw [← level, ← targetNames_inj]
  exact TargetList.ofList_injective.eq_iff

/-- A runtime whose version looks like a language level is not taken for one. -/
theorem targets_of_engineOptions_edge :
    let a : SharedSettings := { engines := [⟨.edge, "es2018"⟩] }
    let b := SharedSettings.assign { engines := [⟨.edge, ""⟩] } .target .es2018
    a.target ≠ .es5 ∧ b.target ≠ .es5 ∧
      a.TellsAll (a.engineOptions .esm "/" false).targets ∧
      b.TellsAll (b.engineOptions .esm "/" false).targets ∧
      (a.engineOptions .esm "/" false).targets ≠ (b.engineOptions .esm "/" false).targets := by
  intro a b
  have early : a.target ≠ .es5 := by decide
  have early' : b.target ≠ .es5 := by decide
  obtain ⟨tells, same⟩ := targets_of_engineOptions early early' .esm .esm "/" "/" false false
  obtain ⟨tells', -⟩ := targets_of_engineOptions early' early .esm .esm "/" "/" false false
  refine ⟨early, early', tells, tells', fun equal => ?_⟩
  exact absurd (same.mp equal).1 (by decide)

end SharedSettings

end BundleHost
