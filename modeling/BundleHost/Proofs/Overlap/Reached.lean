import BundleHost.Proofs.Overlap.Exact

/-!
# Whether shadowed rules are called

A rule that is reported as shadowed need not be dead. The rule that it is reported against takes the
requests that both fit, but its restriction may keep some out that the other one admits: a rule
without restriction is still called for these, unless a further rule before it takes them.

## Main statements

* `RuleStage.reaches_of_wins` — for which requests a rule that is shadowed is called.
* `Overlap.reached_of_find` — this holds of the rule behind every report.
* `Overlap.reported_rule_called` — a report of a rule that is called.
-/

namespace BundleHost

open Overlap (entriesFrom among)

section AnyEngine

variable [RegexEngine] {m : Type → Type}

namespace RuleStage

section

variable [Monad m] {ρ α : Type} [Addressed ρ] (stage : RuleStage m ρ α)
  (settle : String → Except String α → Except HookFailure (Handling α)) (plugins : List (Plugin m))

/-- The rule that is shadowed is called for the requests that it is the first to fit, and for no
others. -/
structure Reaches (finding : Finding) : Prop where
  called : ∀ request : ρ, stage.IsFirst plugins finding.shadowed request →
    stage.Called plugins settle finding.shadowed request
  uncalled : ∀ request : ρ, ¬ stage.IsFirst plugins finding.shadowed request →
    stage.Uncalled plugins finding.shadowed request
  /-- The restriction of the rule that shadows it keeps out what it is called for. -/
  outside : ∀ winner, stage.ruleAt? plugins finding.winner = some winner →
    ∀ request : ρ, stage.IsFirst plugins finding.shadowed request →
      Space.admits winner.restriction (Addressed.space request) = false
  /-- It is dead if the rule that shadows it has no restriction, or the same. -/
  dead : ∀ winner shadowed, stage.ruleAt? plugins finding.winner = some winner →
    stage.ruleAt? plugins finding.shadowed = some shadowed →
    winner.restriction = none ∨ winner.restriction = shadowed.restriction →
      ∀ request : ρ, stage.Uncalled plugins finding.shadowed request

/-- Each report is of a rule that is called as stated. -/
def ReachesStage (reports : List Overlap) : Prop :=
  ∃ findings : List Finding, List.Forall₂ (stage.Reports plugins) findings reports ∧
    ∀ finding ∈ findings, stage.Wins plugins finding.winner finding.shadowed ∧
      stage.Reaches settle plugins finding

end

variable {ρ α : Type} [Addressed ρ] {stage : RuleStage m ρ α} {plugins : List (Plugin m)}

/-- What a rule is the first to fit is kept out by the restriction of each rule that shadows it. -/
theorem not_admits_of_isFirst {winner shadowed : Site} {rule : Rule m ρ α} {request : ρ}
    (shadows : stage.Shadows plugins winner shadowed)
    (placed : stage.ruleAt? plugins winner = some rule)
    (first : stage.IsFirst plugins shadowed request) :
    Space.admits rule.restriction (Addressed.space request) = false := by
  obtain ⟨earlier, _, later, placed', placedLater, same, -⟩ := shadows
  obtain rfl := Option.some.inj (placed.symm.trans placed')
  obtain ⟨_, placedLater', fits, none⟩ := first
  obtain rfl := Option.some.inj (placedLater.symm.trans placedLater')
  rw [← Bool.not_eq_true]
  intro admitted
  refine none winner rule (.inl earlier) placed ⟨admitted, ?_⟩
  rw [Filter.eq_of_source_eq same]
  exact fits.2

variable [Monad m] {settle : String → Except String α → Except HookFailure (Handling α)}

theorem reaches_of_wins (settles : stage.Settles settle) {finding : Finding}
    (wins : stage.Wins plugins finding.winner finding.shadowed) :
    stage.Reaches settle plugins finding := by
  obtain ⟨-, _, later, -, placedLater, -⟩ := wins.shadows
  refine ⟨fun request => called_of_isFirst settles,
    fun request => uncalled_of_not_isFirst placedLater,
    fun winner placed request => not_admits_of_isFirst wins.shadows placed, ?_⟩
  intro winner shadowed placed placedLater restricted request
  refine uncalled_of_not_isFirst placedLater fun first => ?_
  have outside := not_admits_of_isFirst wins.shadows placed first
  obtain ⟨_, placedLater', fits, -⟩ := first
  obtain rfl := Option.some.inj (placedLater.symm.trans placedLater')
  rcases restricted with free | same
  · rw [free] at outside
    cases outside
  · rw [same, fits.1] at outside
    cases outside

theorem reachesStage_among (settles : stage.Settles settle) (plugins : List (Plugin m)) :
    stage.ReachesStage settle plugins
      (among stage.stage [] (entriesFrom stage.rules 0 plugins)) := by
  refine ⟨stage.findings plugins, forall₂_reports_findings, fun finding inside => ?_⟩
  have wins := mem_findings_iff.mp inside
  exact ⟨wins, reaches_of_wins settles wins⟩

end RuleStage

/-- The rule behind every report is called for exactly the requests that it is the first to fit. The
restriction of the rule that it is reported against keeps these out, so that it is dead if this rule
has no restriction, or the same. -/
theorem Overlap.reached_of_find [Monad m] (plugins : List (Plugin m)) :
    ∃ resolves loads, find plugins = resolves ++ loads ∧
      RuleStage.resolve.ReachesStage Dispatch.checkResolve plugins resolves ∧
      RuleStage.load.ReachesStage Dispatch.checkLoad plugins loads :=
  ⟨_, _, rfl, RuleStage.reachesStage_among RuleStage.settles_resolve plugins,
    RuleStage.reachesStage_among RuleStage.settles_load plugins⟩

end AnyEngine

namespace Overlap

/-- A plugin with one rule, which leads the specifiers it admits to a path. -/
def leading (name : String) (restriction : Option String) (path : String) : Plugin Id :=
  ⟨name, none, none, [⟨.everything, restriction, fun _ => .ok { path }⟩], []⟩

/-- The first of two rules with the same filter is for imports of files only: the second is
reported, and it is called for what other modules import. -/
theorem reported_rule_called :
    let plugins := [leading "a" (some Space.file) "/a.js", leading "b" none "/b.js"]
    let request : ResolveRequest := { specifier := "x", space := "virtual" }
    find plugins = [⟨.resolve, "", none, "a", "b"⟩] ∧
      Dispatch.resolve plugins request = .ok (.handled "b" { path := "/b.js" }) ∧
      ¬ RuleStage.resolve.Uncalled plugins ⟨1, 0⟩ request := by
  refine ⟨by decide, rfl, fun uncalled => ?_⟩
  cases uncalled fun _ => .error "late"

end Overlap

end BundleHost
