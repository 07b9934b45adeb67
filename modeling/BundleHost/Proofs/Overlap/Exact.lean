import BundleHost.Proofs.Dispatch.Sites
import BundleHost.Proofs.Overlap.Search
import Mathlib.Data.List.Forall2

/-!
# What is reported of overlapping rules

The search for overlaps goes through all rules of a stage, told apart by their sites, and looks for
the first rule before each that shadows it. What it reports is described here by sites alone: which
rules, against which others, and in which order.

## Main statements

* `RuleStage.lintsStage_among` — the reports of one stage.
* `Overlap.lintsExactly_find` — all reports, and those of more attachments.
-/

namespace BundleHost

open Overlap (Entry entriesFrom among)

variable [RegexEngine] {m : Type → Type}

/-- A rule that is shadowed, and the rule against which it is reported. -/
structure Finding where
  winner : Site
  shadowed : Site
  deriving DecidableEq, Repr

namespace RuleStage

variable {ρ α : Type} [Addressed ρ] (stage : RuleStage m ρ α) (plugins : List (Plugin m))

/-- The rule at `winner` is in an earlier attachment than that at `shadowed`. Their filters have
the same text, and their restrictions overlap: one is absent, or they are equal. -/
structure Shadows (winner shadowed : Site) : Prop where
  earlier : winner.slot < shadowed.slot
  alike : ∃ first later, stage.ruleAt? plugins winner = some first ∧
    stage.ruleAt? plugins shadowed = some later ∧ first.filter.source = later.filter.source ∧
    (first.restriction = none ∨ later.restriction = none ∨
      first.restriction = later.restriction)

/-- The first of the rules that shadow a rule. -/
structure Wins (winner shadowed : Site) : Prop where
  shadows : stage.Shadows plugins winner shadowed
  first : ∀ other, stage.Shadows plugins other shadowed → other = winner ∨ winner.Before other

/-- A finding as it is reported: the rule that is shadowed, and the names of both plugins. -/
def Reports (finding : Finding) (overlap : Overlap) : Prop :=
  ∃ winner shadowed rule, plugins[finding.winner.slot]? = some winner ∧
    plugins[finding.shadowed.slot]? = some shadowed ∧
    stage.ruleAt? plugins finding.shadowed = some rule ∧
    overlap = ⟨stage.stage, rule.filter.source, rule.restriction, winner.name, shadowed.name⟩

/-- The reports of one stage are right. -/
structure LintsStage (reports : List Overlap) : Prop where
  /-- The findings behind the reports are in the order of the rules that are shadowed, so that no
  rule is reported twice; a rule is among them if any shadows it, with the first that does. -/
  findings : ∃ findings : List Finding,
    List.Forall₂ (stage.Reports plugins) findings reports ∧
    findings.Pairwise (·.shadowed.Before ·.shadowed) ∧
    (∀ finding, finding ∈ findings ↔ stage.Wins plugins finding.winner finding.shadowed) ∧
    ∀ site, (∃ finding ∈ findings, finding.shadowed = site) ↔
      ∃ other, stage.Shadows plugins other site
  /-- Where the restriction of the first admits a request, the second is not called. -/
  dead : ∀ winner shadowed rule, stage.Wins plugins winner shadowed →
    stage.ruleAt? plugins winner = some rule → ∀ request : ρ,
    Space.admits rule.restriction (Addressed.space request) = true →
    stage.Uncalled plugins shadowed request

/-! ## Rules with their sites -/

/-- What is compared of a rule at a site. -/
def EntryAt (site : Site) (entry : Entry) : Prop :=
  ∃ plugin rule, plugins[site.slot]? = some plugin ∧
    (stage.rules plugin)[site.index]? = some rule ∧
    entry = ⟨site.slot, plugin.name, rule.filter.source, rule.restriction⟩

/-- The rules of one attachment with their sites. -/
def sitedAt (slot : Nat) (plugin : Plugin m) : List (Site × Entry) :=
  (stage.rules plugin).zipIdx.map fun (rule, index) =>
    (⟨slot, index⟩, ⟨slot, plugin.name, rule.filter.source, rule.restriction⟩)

/-- All rules with their sites, in the order in which they are asked. -/
def sited : List (Site × Entry) :=
  plugins.zipIdx.flatMap fun (plugin, slot) => stage.sitedAt slot plugin

variable {stage plugins} {site : Site} {entry : Entry}

theorem mem_sited_iff : (site, entry) ∈ stage.sited plugins ↔ stage.EntryAt plugins site entry := by
  simp only [sited, sitedAt, List.mem_flatMap, List.mem_map, Prod.exists,
    List.mem_zipIdx_iff_getElem?, Prod.mk.injEq]
  constructor
  · rintro ⟨plugin, slot, attached, rule, index, ruled, rfl, rfl⟩
    exact ⟨plugin, rule, attached, ruled, rfl⟩
  · rintro ⟨plugin, rule, attached, ruled, rfl⟩
    exact ⟨plugin, site.slot, attached, rule, site.index, ruled, rfl, rfl⟩

theorem map_snd_sitedAt (slot : Nat) (plugin : Plugin m) :
    (stage.sitedAt slot plugin).map Prod.snd = (stage.rules plugin).map fun rule =>
      ⟨slot, plugin.name, rule.filter.source, rule.restriction⟩ := by
  conv_rhs => rw [← List.zipIdx_map_fst 0 (stage.rules plugin)]
  rw [sitedAt, List.map_map, List.map_map]
  rfl

theorem entriesFrom_eq_map_snd (slot : Nat) (plugins : List (Plugin m)) :
    entriesFrom stage.rules slot plugins =
      ((plugins.zipIdx slot).flatMap fun (plugin, slot) => stage.sitedAt slot plugin).map
        Prod.snd := by
  induction plugins generalizing slot with
  | nil => rfl
  | cons plugin rest ih =>
    rw [entriesFrom, List.zipIdx_cons, List.flatMap_cons, List.map_append, map_snd_sitedAt, ih]

omit [RegexEngine] in
theorem pairwise_snd_zipIdx {β : Type} (l : List β) : l.zipIdx.Pairwise (·.2 < ·.2) := by
  rw [← List.pairwise_map, List.zipIdx_map_snd]
  exact List.pairwise_lt_range' 1

theorem pairwise_sited : (stage.sited plugins).Pairwise (·.1.Before ·.1) := by
  rw [sited, List.pairwise_flatMap]
  constructor
  · rintro ⟨plugin, slot⟩ -
    change (stage.sitedAt slot plugin).Pairwise _
    rw [sitedAt, List.pairwise_map]
    exact (pairwise_snd_zipIdx _).imp fun later => .inr ⟨rfl, later⟩
  · refine (pairwise_snd_zipIdx plugins).imp ?_
    rintro ⟨plugin, slot⟩ ⟨plugin', slot'⟩ later a inA b inB
    simp only [sitedAt, List.mem_map] at inA inB
    obtain ⟨_, -, rfl⟩ := inA
    obtain ⟨_, -, rfl⟩ := inB
    exact .inl later

/-! ## The first that shadows -/

omit [RegexEngine] in
/-- In a list in order, what is found is the first of all that it holds of. -/
theorem find?_eq_some_iff_first {β : Type} {before : β → β → Prop} {p : β → Bool} {l : List β}
    {x : β} (asymm : ∀ {a b}, before a b → ¬ before b a) (ordered : l.Pairwise before) :
    l.find? p = some x ↔ x ∈ l ∧ p x = true ∧ ∀ y ∈ l, p y = true → y = x ∨ before x y := by
  rw [List.find?_eq_some_iff_append]
  constructor
  · rintro ⟨holds, front, back, rfl, none⟩
    refine ⟨by simp, holds, ?_⟩
    intro y inside holds'
    rcases List.mem_append.mp inside with inFront | inBack
    · have fails := none y inFront
      simp [holds'] at fails
    · obtain ⟨-, ordered, -⟩ := List.pairwise_append.mp ordered
      rcases List.mem_cons.mp inBack with rfl | inBack
      · exact .inl rfl
      · exact .inr (List.rel_of_pairwise_cons ordered inBack)
  · rintro ⟨inside, holds, first⟩
    obtain ⟨front, back, rfl⟩ := List.append_of_mem inside
    obtain ⟨-, -, apart⟩ := List.pairwise_append.mp ordered
    refine ⟨holds, front, back, rfl, ?_⟩
    intro y inFront
    have earlier : before y x := apart y inFront x (by simp)
    rw [Bool.not_eq_true', ← Bool.not_eq_true]
    intro holds'
    rcases first y (by simp [inFront]) holds' with rfl | later
    · exact asymm earlier earlier
    · exact asymm earlier later

variable {winner shadowed : Site}

theorem EntryAt.unique {a b : Entry} (ha : stage.EntryAt plugins site a)
    (hb : stage.EntryAt plugins site b) : a = b := by
  obtain ⟨plugin, rule, attached, ruled, rfl⟩ := ha
  obtain ⟨plugin', rule', attached', ruled', rfl⟩ := hb
  obtain rfl : plugin = plugin' := Option.some.inj (attached.symm.trans attached')
  obtain rfl : rule = rule' := Option.some.inj (ruled.symm.trans ruled')
  rfl

theorem shadows_iff : stage.Shadows plugins winner shadowed ↔
    ∃ first later, stage.EntryAt plugins winner first ∧ stage.EntryAt plugins shadowed later ∧
      first.eclipses later = true := by
  simp only [Entry.eclipses_iff]
  constructor
  · rintro ⟨earlier, first, later, placed, placed', same, meet⟩
    obtain ⟨plugin, attached, ruled⟩ := ruleAt?_eq_some_iff.mp placed
    obtain ⟨plugin', attached', ruled'⟩ := ruleAt?_eq_some_iff.mp placed'
    exact ⟨_, _, ⟨plugin, first, attached, ruled, rfl⟩, ⟨plugin', later, attached', ruled', rfl⟩,
      earlier, same, meet⟩
  · rintro ⟨_, _, ⟨plugin, first, attached, ruled, rfl⟩, ⟨plugin', later, attached', ruled', rfl⟩,
      earlier, same, meet⟩
    exact ⟨earlier, first, later, ruleAt?_eq_some_iff.mpr ⟨plugin, attached, ruled⟩,
      ruleAt?_eq_some_iff.mpr ⟨plugin', attached', ruled'⟩, same, meet⟩

theorem wins_iff : stage.Wins plugins winner shadowed ↔
    ∃ first later, stage.EntryAt plugins shadowed later ∧
      (stage.sited plugins).find? (·.2.eclipses later) = some (winner, first) := by
  simp only [find?_eq_some_iff_first Site.Before.asymm pairwise_sited, mem_sited_iff, Prod.forall]
  constructor
  · rintro ⟨shadows, earliest⟩
    obtain ⟨first, later, atWinner, atShadowed, eclipses⟩ := shadows_iff.mp shadows
    refine ⟨first, later, atShadowed, atWinner, eclipses, ?_⟩
    intro other entry atOther eclipses'
    rcases earliest other (shadows_iff.mpr ⟨entry, later, atOther, atShadowed, eclipses'⟩) with
      rfl | behind
    · rw [atOther.unique atWinner]
      exact .inl rfl
    · exact .inr behind
  · rintro ⟨first, later, atShadowed, atWinner, eclipses, earliest⟩
    refine ⟨shadows_iff.mpr ⟨first, later, atWinner, atShadowed, eclipses⟩, ?_⟩
    intro other shadows
    obtain ⟨entry, later', atOther, atShadowed', eclipses'⟩ := shadows_iff.mp shadows
    rw [atShadowed'.unique atShadowed] at eclipses'
    rcases earliest other entry atOther eclipses' with same | behind
    · exact .inl (congrArg Prod.fst same)
    · exact .inr behind

/-- A rule that is shadowed is shadowed by a first one. -/
theorem exists_wins {other : Site} (shadows : stage.Shadows plugins other shadowed) :
    ∃ winner, stage.Wins plugins winner shadowed := by
  obtain ⟨first, later, atOther, atShadowed, eclipses⟩ := shadows_iff.mp shadows
  have some : ((stage.sited plugins).find? (·.2.eclipses later)).isSome :=
    List.find?_isSome.mpr ⟨(other, first), mem_sited_iff.mpr atOther, eclipses⟩
  obtain ⟨⟨winner, first⟩, found⟩ := Option.isSome_iff_exists.mp some
  exact ⟨winner, wins_iff.mpr ⟨first, later, atShadowed, found⟩⟩

/-! ## Findings -/

variable (stage plugins) in
/-- Every rule that is shadowed, behind the first rule that shadows it. -/
def found : List ((Site × Entry) × (Site × Entry)) :=
  (stage.sited plugins).filterMap fun shadowed =>
    ((stage.sited plugins).find? (·.2.eclipses shadowed.2)).map (·, shadowed)

theorem mem_found_iff {first later : Entry} :
    ((winner, first), (shadowed, later)) ∈ stage.found plugins ↔
      stage.EntryAt plugins shadowed later ∧
        (stage.sited plugins).find? (·.2.eclipses later) = some (winner, first) := by
  rw [← mem_sited_iff, found, List.mem_filterMap]
  constructor
  · rintro ⟨⟨site, entry⟩, inside, found⟩
    obtain ⟨_, found, same⟩ := Option.map_eq_some_iff.mp found
    cases same
    exact ⟨inside, found⟩
  · rintro ⟨inside, found⟩
    exact ⟨(shadowed, later), inside, Option.map_eq_some_iff.mpr ⟨_, found, rfl⟩⟩

theorem pairwise_found : (stage.found plugins).Pairwise (·.2.1.Before ·.2.1) := by
  refine pairwise_sited.filterMap _ ?_
  intro a a' before b found b' found'
  obtain ⟨_, -, rfl⟩ := Option.map_eq_some_iff.mp found
  obtain ⟨_, -, rfl⟩ := Option.map_eq_some_iff.mp found'
  exact before

theorem pairwise_slot_entriesFrom :
    (entriesFrom stage.rules 0 plugins).Pairwise (·.slot ≤ ·.slot) := by
  rw [entriesFrom_eq_map_snd, List.pairwise_map]
  refine pairwise_sited.imp_of_mem ?_
  rintro ⟨site, entry⟩ ⟨site', entry'⟩ inside inside' before
  obtain ⟨_, _, _, _, rfl⟩ := mem_sited_iff.mp inside
  obtain ⟨_, _, _, _, rfl⟩ := mem_sited_iff.mp inside'
  rcases before with earlier | ⟨same, -⟩
  · exact Nat.le_of_lt earlier
  · exact Nat.le_of_eq same

/-- The search reports what is found, in the same order. -/
theorem among_eq_map_found (name : HookStage) :
    among name [] (entriesFrom stage.rules 0 plugins) =
      (stage.found plugins).map fun (first, later) => Overlap.report name later.2 first.2 := by
  rw [Overlap.among_eq_filterMap name (by simpa using pairwise_slot_entriesFrom), List.nil_append,
    entriesFrom_eq_map_snd, List.filterMap_map, found, List.map_filterMap]
  congr 1
  funext later
  simp only [Function.comp_apply, List.find?_map, Option.map_map]
  rfl

variable (stage plugins) in
def findings : List Finding :=
  (stage.found plugins).map fun (first, later) => ⟨first.1, later.1⟩

theorem mem_findings_iff {finding : Finding} :
    finding ∈ stage.findings plugins ↔ stage.Wins plugins finding.winner finding.shadowed := by
  rw [wins_iff, findings, List.mem_map]
  constructor
  · rintro ⟨⟨⟨winner, first⟩, ⟨shadowed, later⟩⟩, inside, rfl⟩
    exact ⟨first, later, mem_found_iff.mp inside⟩
  · rintro ⟨first, later, found⟩
    exact ⟨_, mem_found_iff.mpr found, rfl⟩

theorem pairwise_findings :
    (stage.findings plugins).Pairwise (·.shadowed.Before ·.shadowed) := by
  rw [findings, List.pairwise_map]
  exact pairwise_found

theorem forall₂_reports_findings :
    List.Forall₂ (stage.Reports plugins) (stage.findings plugins)
      (among stage.stage [] (entriesFrom stage.rules 0 plugins)) := by
  rw [among_eq_map_found, findings, List.forall₂_map_left_iff, List.forall₂_map_right_iff,
    List.forall₂_same]
  rintro ⟨⟨winner, first⟩, ⟨shadowed, later⟩⟩ inside
  obtain ⟨atShadowed, found⟩ := mem_found_iff.mp inside
  obtain ⟨plugin, rule, attached, ruled, rfl⟩ := atShadowed
  obtain ⟨plugin', _, attached', _, rfl⟩ := mem_sited_iff.mp (List.mem_of_find?_eq_some found)
  exact ⟨plugin', plugin, rule, attached', attached,
    ruleAt?_eq_some_iff.mpr ⟨plugin, attached, ruled⟩, rfl⟩

/-- The first rule takes what it admits and its filter finds; where the filter finds nothing, the
rule that is shadowed, which has the same, does not fit. -/
theorem uncalled_of_wins {rule : Rule m ρ α} {request : ρ}
    (wins : stage.Wins plugins winner shadowed)
    (placed : stage.ruleAt? plugins winner = some rule)
    (admitted : Space.admits rule.restriction (Addressed.space request) = true) :
    stage.Uncalled plugins shadowed request := by
  obtain ⟨earlier, first, later, placed', placedLater, same, -⟩ := wins.shadows
  obtain rfl : rule = first := Option.some.inj (placed.symm.trans placed')
  by_cases occurs : rule.filter.occursIn (Addressed.subject request) = true
  · exact uncalled_of_fits placedLater placed (.inl earlier) ⟨admitted, occurs⟩
  · refine uncalled_of_not_fits placedLater fun fits => occurs ?_
    rw [Filter.eq_of_source_eq same]
    exact fits.2

theorem lintsStage_among (stage : RuleStage m ρ α) (plugins : List (Plugin m)) :
    stage.LintsStage plugins (among stage.stage [] (entriesFrom stage.rules 0 plugins)) where
  findings := by
    refine ⟨stage.findings plugins, forall₂_reports_findings, pairwise_findings,
      fun _ => mem_findings_iff, ?_⟩
    intro site
    constructor
    · rintro ⟨finding, inside, rfl⟩
      exact ⟨finding.winner, (mem_findings_iff.mp inside).shadows⟩
    · rintro ⟨other, shadows⟩
      obtain ⟨winner, wins⟩ := exists_wins shadows
      exact ⟨⟨winner, site⟩, mem_findings_iff.mpr wins, rfl⟩
  dead winner shadowed rule wins placed request admitted := uncalled_of_wins wins placed admitted

end RuleStage

namespace Overlap

/-! ## All reports -/

/-- The reports on attached plugins are those of resolve rules and then those of load rules, each
stage's right, and attaching one more plugin only adds to the reports of either stage. -/
structure LintsExactly [Monad m] (plugins : List (Plugin m)) : Prop where
  stages : ∃ resolves loads, find plugins = resolves ++ loads ∧
    RuleStage.resolve.LintsStage plugins resolves ∧ RuleStage.load.LintsStage plugins loads
  appended : ∀ (added : Plugin m) (stage : HookStage),
    (find plugins).filter (·.stage = stage) <+:
      (find (plugins ++ [added])).filter (·.stage = stage)

/-- The reports on any attached plugins, whose handlers act in any monad. -/
theorem lintsExactly_find [Monad m] (plugins : List (Plugin m)) : LintsExactly plugins where
  stages := ⟨_, _, rfl, RuleStage.resolve.lintsStage_among plugins,
    RuleStage.load.lintsStage_among plugins⟩
  appended added stage := isPrefix_filter_find plugins [added] stage

end Overlap

end BundleHost
