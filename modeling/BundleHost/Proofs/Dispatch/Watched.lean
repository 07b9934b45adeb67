import BundleHost.Proofs.Dispatch.FirstRule
import BundleHost.Proofs.Invocation.Watching

/-!
# Watched dispatch

A specifier that no rule fits calls no handler. Any other calls one handler once: that of the first
rule that fits.
-/

namespace BundleHost.Dispatch

variable [RegexEngine] {World : Type} {plugins : List (Plugin (StateM World))}
  {request : ResolveRequest} {name : String}
  {rule : Rule (StateM World) ResolveRequest ResolveAnswer}

/-- The plugin that is attached at a place has this name and this rule. -/
def StandsAt (plugins : List (Plugin (StateM World))) (slot : Nat) (name : String)
    (rule : Rule (StateM World) ResolveRequest ResolveAnswer) : Prop :=
  ∃ plugin, plugins[slot]? = some plugin ∧ plugin.name = name ∧ rule ∈ plugin.resolveRules

theorem not_unclaimed_of_first (h : First Plugin.resolveRules plugins request name rule) :
    ¬ Unclaimed Plugin.resolveRules plugins request := by
  intro unclaimed
  have none := claim?_eq_none_iff.mpr unclaimed
  rw [claim?_eq_some_iff.mpr h] at none
  cases none

theorem find?_watch (slot : Nat) (plugin : Plugin (StateM World)) :
    (plugin.watch slot).resolveRules.find? (·.matches request) =
      (plugin.resolveRules.find? (·.matches request)).map (·.watch (.resolved slot)) := by
  change (plugin.resolveRules.map _).find? _ = _
  rw [List.find?_map]
  rfl

theorem claim?_cons_watched (slot : Nat) (plugin : Plugin (StateM World))
    (rest : List (Plugin (Watched World))) :
    claim? Plugin.resolveRules (plugin.watch slot :: rest) request =
      ((plugin.resolveRules.find? (·.matches request)).map fun rule =>
        (plugin.name, rule.watch (.resolved slot))).or
          (claim? Plugin.resolveRules rest request) := by
  unfold claim?
  rw [List.findSome?_cons, find?_watch]
  cases plugin.resolveRules.find? (·.matches request) <;> rfl

theorem claim?_watchFrom_eq_none (slot : Nat)
    (h : claim? Plugin.resolveRules plugins request = none) :
    claim? Plugin.resolveRules (watchFrom slot plugins) request = none := by
  induction plugins generalizing slot with
  | nil => rfl
  | cons plugin rest ih =>
    simp only [claim?, List.findSome?_cons] at h
    cases found : plugin.resolveRules.find? (·.matches request) with
    | some rule => simp [found] at h
    | none =>
      simp only [found, Option.map_none] at h
      rw [watchFrom, claim?_cons_watched, found, ih (slot + 1) h]
      rfl

theorem claim?_watchFrom_eq_some (slot : Nat)
    (h : claim? Plugin.resolveRules plugins request = some (name, rule)) :
    ∃ place, StandsAt plugins place name rule ∧
      claim? Plugin.resolveRules (watchFrom slot plugins) request =
        some (name, rule.watch (.resolved (slot + place))) := by
  induction plugins generalizing slot with
  | nil => cases h
  | cons plugin rest ih =>
    simp only [claim?, List.findSome?_cons] at h
    cases found : plugin.resolveRules.find? (·.matches request) with
    | some first =>
      simp only [found, Option.map_some, Option.some.injEq, Prod.mk.injEq] at h
      obtain ⟨rfl, rfl⟩ := h
      refine ⟨0, ⟨plugin, rfl, rfl, List.mem_of_find?_eq_some found⟩, ?_⟩
      rw [watchFrom, claim?_cons_watched, found]
      rfl
    | none =>
      simp only [found, Option.map_none] at h
      obtain ⟨place, stands, claimed⟩ := ih (slot + 1) h
      refine ⟨place + 1, stands, ?_⟩
      rw [watchFrom, claim?_cons_watched, found, claimed, Nat.add_right_comm, Nat.add_assoc]
      rfl

/-- Without a rule that fits, nothing is called. -/
theorem runs_resolve_of_unclaimed (h : Unclaimed Plugin.resolveRules plugins request) (w : World) :
    Runs (resolve (watchFrom 0 plugins) request) w [] (.ok .unhandled) w := by
  unfold resolve
  rw [claim?_watchFrom_eq_none 0 (claim?_eq_none_iff.mpr h)]
  exact .pure _ w

/-- The first rule that fits is called, and nothing else. -/
theorem runs_resolve_of_first (h : First Plugin.resolveRules plugins request name rule)
    {w w' : World} {response : Except String ResolveAnswer}
    (called : StateT.run (rule.handler request) w = (response, w')) :
    ∃ slot, StandsAt plugins slot name rule ∧
      Runs (resolve (watchFrom 0 plugins) request) w [.resolved slot request response]
        (checkResolve name response) w' := by
  obtain ⟨slot, stands, claimed⟩ := claim?_watchFrom_eq_some 0 (claim?_eq_some_iff.mpr h)
  refine ⟨slot, stands, ?_⟩
  unfold resolve
  rw [claimed, Nat.zero_add]
  have watched : Runs ((rule.watch (.resolved slot)).handler request) w
      [.resolved slot request response] response w' := by
    change (let p := StateT.run (rule.handler request) w;
      ((p.1, [Event.resolved slot request p.1]), p.2)) = _
    rw [called]
  exact watched.bind (.pure _ w')

end BundleHost.Dispatch
