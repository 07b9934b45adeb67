import BundleHost.Proofs.Dispatch.FirstRule

/-!
# Rules at their places

Rules are told apart by the place of their attachment and their place inside the plugin. A rule is
called for a request if dispatch comes to what a handler in its place responds, and it is not called
if dispatch is the same whatever handler stands there. Both are meant in any monad, so that the
effects of the handler belong to its response.

## Main statements

* `RuleStage.called_of_isFirst` — the first rule that fits a request is called.
* `RuleStage.uncalled_of_fits` — a rule is not called for what fits a rule that is asked before it.
* `RuleStage.uncalled_of_not_fits` — a rule is not called for what does not fit it.
-/

namespace BundleHost

/-- The place of a rule: that of the attachment, and its own inside the plugin. -/
structure Site where
  slot : Nat
  index : Nat
  deriving DecidableEq, Repr

/-- The order in which rules are asked. -/
def Site.Before (a b : Site) : Prop := a.slot < b.slot ∨ a.slot = b.slot ∧ a.index < b.index

theorem Site.Before.asymm {a b : Site} (h : a.Before b) : ¬ b.Before a := by
  unfold Before at *
  omega

open Dispatch

theorem eq_take_cons_drop {β : Type} {l : List β} {i : Nat} {b : β} (h : l[i]? = some b) :
    l = l.take i ++ b :: l.drop (i + 1) := by
  obtain ⟨inside, rfl⟩ := List.getElem?_eq_some_iff.mp h
  rw [List.getElem_cons_drop, List.take_append_drop]

theorem modify_eq_take_cons_drop {β : Type} {l : List β} {i : Nat} {b : β} (change : β → β)
    (h : l[i]? = some b) : l.modify i change = l.take i ++ change b :: l.drop (i + 1) := by
  obtain ⟨inside, rfl⟩ := List.getElem?_eq_some_iff.mp h
  exact List.modify_eq_take_cons_drop inside

section AnyEngine

variable [RegexEngine]

/-- A stage at which rules are asked. Dispatch depends on the rule that claims a request only. -/
structure RuleStage (m : Type → Type) (ρ α : Type) [Addressed ρ] where
  stage : HookStage
  rules : Plugin m → List (Rule m ρ α)
  withRules : Plugin m → List (Rule m ρ α) → Plugin m
  dispatch : List (Plugin m) → ρ → m (Except HookFailure (Handling α))
  rules_withRules (plugin : Plugin m) (given : List (Rule m ρ α)) :
    rules (withRules plugin given) = given
  name_withRules (plugin : Plugin m) (given : List (Rule m ρ α)) :
    (withRules plugin given).name = plugin.name
  dispatch_congr {P Q : List (Plugin m)} {request : ρ} :
    claim? rules P request = claim? rules Q request → dispatch P request = dispatch Q request

namespace RuleStage

variable {m : Type → Type}

def resolve [Monad m] : RuleStage m ResolveRequest ResolveAnswer where
  stage := .resolve
  rules := Plugin.resolveRules
  withRules plugin given := { plugin with resolveRules := given }
  dispatch := Dispatch.resolve
  rules_withRules _ _ := rfl
  name_withRules _ _ := rfl
  dispatch_congr same := by
    unfold Dispatch.resolve
    rw [same]

def load [Monad m] : RuleStage m LoadRequest LoadAnswer where
  stage := .load
  rules := Plugin.loadRules
  withRules plugin given := { plugin with loadRules := given }
  dispatch := Dispatch.load
  rules_withRules _ _ := rfl
  name_withRules _ _ := rfl
  dispatch_congr same := by
    unfold Dispatch.load
    rw [same]

variable {ρ α : Type} [Addressed ρ] (stage : RuleStage m ρ α) (plugins : List (Plugin m))

def ruleAt? (site : Site) : Option (Rule m ρ α) :=
  plugins[site.slot]?.bind fun plugin => (stage.rules plugin)[site.index]?

/-- The plugins with another handler of the rule at a site. -/
def swap (site : Site) (handler : Handler m ρ α) : List (Plugin m) :=
  plugins.modify site.slot fun plugin =>
    stage.withRules plugin
      ((stage.rules plugin).modify site.index fun rule => { rule with handler })

/-- The rule at a site is not called for a request: whatever its handler were, dispatch would do
the same. -/
def Uncalled (site : Site) (request : ρ) : Prop :=
  ∀ handler, stage.dispatch (stage.swap plugins site handler) request =
    stage.dispatch plugins request

/-- The rule at a site fits a request, and none that is asked before it does. -/
def IsFirst (site : Site) (request : ρ) : Prop :=
  ∃ rule, stage.ruleAt? plugins site = some rule ∧ rule.Fits request ∧
    ∀ (other : Site) earlier, other.Before site → stage.ruleAt? plugins other = some earlier →
      ¬ earlier.Fits request

section Called

variable [Monad m] (settle : String → Except String α → Except HookFailure (Handling α))

/-- The rule at a site is called for a request: dispatch comes to what its handler responds, and
would come to what any other handler in its place responds. -/
def Called (site : Site) (request : ρ) : Prop :=
  ∃ plugin rule, plugins[site.slot]? = some plugin ∧ stage.ruleAt? plugins site = some rule ∧
    stage.dispatch plugins request = (do return settle plugin.name (← rule.handler request)) ∧
    ∀ handler, stage.dispatch (stage.swap plugins site handler) request =
      do return settle plugin.name (← handler request)

/-- What dispatch makes of the response of the handler that it calls. -/
structure Settles : Prop where
  dispatch_eq {plugins : List (Plugin m)} {request : ρ} {plugin : String} {rule : Rule m ρ α} :
    claim? stage.rules plugins request = some (plugin, rule) →
      stage.dispatch plugins request = do return settle plugin (← rule.handler request)

end Called

theorem settles_resolve [Monad m] : (resolve : RuleStage m _ _).Settles checkResolve where
  dispatch_eq claimed := by
    have claimed : claim? Plugin.resolveRules _ _ = some _ := claimed
    simp only [resolve, Dispatch.resolve, claimed]

theorem settles_load [Monad m] : (load : RuleStage m _ _).Settles checkLoad where
  dispatch_eq claimed := by
    have claimed : claim? Plugin.loadRules _ _ = some _ := claimed
    simp only [load, Dispatch.load, claimed]

variable {stage plugins} {site : Site} {request : ρ}

theorem ruleAt?_eq_some_iff {rule : Rule m ρ α} :
    stage.ruleAt? plugins site = some rule ↔
      ∃ plugin, plugins[site.slot]? = some plugin ∧
        (stage.rules plugin)[site.index]? = some rule := by
  rw [ruleAt?, Option.bind_eq_some_iff]

/-! ## What is asked before a rule -/

variable (stage plugins site) in
/-- The rules that are asked before the one at a site, with the names of their plugins. -/
def askedBefore : List (String × Rule m ρ α) :=
  offers stage.rules (plugins.take site.slot) ++
    plugins[site.slot]?.toList.flatMap fun plugin =>
      ((stage.rules plugin).take site.index).map (plugin.name, ·)

omit [Addressed ρ] in
theorem offers_of_split {rules : Plugin m → List (Rule m ρ α)} {plugin : Plugin m}
    {rule : Rule m ρ α} {front back : List (Rule m ρ α)} (P Q : List (Plugin m))
    (split : rules plugin = front ++ rule :: back) :
    offers rules (P ++ plugin :: Q) = offers rules P ++ front.map (plugin.name, ·) ++
      (plugin.name, rule) :: (back.map (plugin.name, ·) ++ offers rules Q) := by
  simp [offers, split]

/-- The rule at a site stands behind those that are asked before it, and another handler changes
nothing around it. -/
theorem exists_offers {plugin : Plugin m} {rule : Rule m ρ α}
    (attached : plugins[site.slot]? = some plugin)
    (ruled : (stage.rules plugin)[site.index]? = some rule) :
    ∃ after, offers stage.rules plugins =
        stage.askedBefore plugins site ++ (plugin.name, rule) :: after ∧
      ∀ handler, offers stage.rules (stage.swap plugins site handler) =
        stage.askedBefore plugins site ++ (plugin.name, { rule with handler }) :: after := by
  have own : stage.askedBefore plugins site = offers stage.rules (plugins.take site.slot) ++
      ((stage.rules plugin).take site.index).map (plugin.name, ·) := by
    simp [askedBefore, attached]
  refine ⟨((stage.rules plugin).drop (site.index + 1)).map (plugin.name, ·) ++
    offers stage.rules (plugins.drop (site.slot + 1)), ?_, fun handler => ?_⟩
  · rw [own, ← offers_of_split _ _ (eq_take_cons_drop ruled), ← eq_take_cons_drop attached]
  · have changed := stage.rules_withRules plugin
      ((stage.rules plugin).modify site.index fun rule => { rule with handler })
    rw [modify_eq_take_cons_drop _ ruled] at changed
    rw [own, swap, modify_eq_take_cons_drop _ attached, modify_eq_take_cons_drop _ ruled,
      offers_of_split _ _ changed, stage.name_withRules]

theorem exists_mem_offers_iff {rule : Rule m ρ α} :
    (∃ name, (name, rule) ∈ offers stage.rules plugins) ↔
      ∃ site, stage.ruleAt? plugins site = some rule := by
  simp only [offers, List.mem_flatMap, List.mem_map, Prod.mk.injEq, ruleAt?_eq_some_iff]
  constructor
  · rintro ⟨_, plugin, attached, _, ruled, rfl, rfl⟩
    obtain ⟨slot, attached⟩ := List.mem_iff_getElem?.mp attached
    obtain ⟨index, ruled⟩ := List.mem_iff_getElem?.mp ruled
    exact ⟨⟨slot, index⟩, plugin, attached, ruled⟩
  · rintro ⟨site, plugin, attached, ruled⟩
    exact ⟨plugin.name, plugin, List.mem_of_getElem? attached, rule, List.mem_of_getElem? ruled,
      rfl, rfl⟩

theorem ruleAt?_take_eq_some_iff {slot : Nat} {rule : Rule m ρ α} :
    stage.ruleAt? (plugins.take slot) site = some rule ↔
      site.slot < slot ∧ stage.ruleAt? plugins site = some rule := by
  rw [ruleAt?, List.getElem?_take]
  by_cases early : site.slot < slot <;> simp [ruleAt?, early]

/-- The rules that are asked before one are those of earlier attachments and the earlier ones of
its own. -/
theorem exists_mem_askedBefore_iff {rule : Rule m ρ α} :
    (∃ name, (name, rule) ∈ stage.askedBefore plugins site) ↔
      ∃ other : Site, other.Before site ∧ stage.ruleAt? plugins other = some rule := by
  have attachments : (∃ name, (name, rule) ∈ offers stage.rules (plugins.take site.slot)) ↔
      ∃ other : Site, other.slot < site.slot ∧ stage.ruleAt? plugins other = some rule := by
    simp only [exists_mem_offers_iff, ruleAt?_take_eq_some_iff]
  have own : (∃ name, (name, rule) ∈ plugins[site.slot]?.toList.flatMap fun plugin =>
      ((stage.rules plugin).take site.index).map (plugin.name, ·)) ↔
      ∃ other : Site, (other.slot = site.slot ∧ other.index < site.index) ∧
        stage.ruleAt? plugins other = some rule := by
    simp only [List.mem_flatMap, Option.mem_toList, List.mem_map, Prod.mk.injEq,
      ruleAt?_eq_some_iff]
    constructor
    · rintro ⟨_, plugin, attached, _, ruled, rfl, rfl⟩
      obtain ⟨index, ruled⟩ := List.mem_iff_getElem?.mp ruled
      obtain ⟨early, ruled⟩ : index < site.index ∧ _ := by simpa [List.getElem?_take] using ruled
      exact ⟨⟨site.slot, index⟩, ⟨rfl, early⟩, plugin, attached, ruled⟩
    · rintro ⟨⟨_, index⟩, ⟨rfl, early⟩, plugin, attached, ruled⟩
      refine ⟨plugin.name, plugin, attached, rule, ?_, rfl, rfl⟩
      exact List.mem_of_getElem? ((List.getElem?_take_of_lt early).trans ruled)
  simp only [askedBefore, List.mem_append, exists_or, attachments, own, Site.Before, or_and_right]

/-- A request is claimed by a rule that is asked before the one at a site, or by this one, or by a
later one; another handler changes none of these choices. -/
theorem exists_claim?_eq {rule : Rule m ρ α} (placed : stage.ruleAt? plugins site = some rule)
    (request : ρ) :
    ∃ plugin later, plugins[site.slot]? = some plugin ∧
      claim? stage.rules plugins request =
        ((stage.askedBefore plugins site).find? (·.2.matches request)).or
          (if rule.matches request then some (plugin.name, rule) else later) ∧
      ∀ handler, claim? stage.rules (stage.swap plugins site handler) request =
        ((stage.askedBefore plugins site).find? (·.2.matches request)).or
          (if rule.matches request then some (plugin.name, { rule with handler }) else later) := by
  obtain ⟨plugin, attached, ruled⟩ := ruleAt?_eq_some_iff.mp placed
  obtain ⟨after, offered, swapped⟩ := exists_offers attached ruled
  refine ⟨plugin, after.find? (·.2.matches request), attached, ?_, fun handler => ?_⟩
  · rw [claim?_eq_find?_offers, offered, List.find?_append, List.find?_cons]
    cases rule.matches request <;> rfl
  · have same : ({ rule with handler } : Rule m ρ α).matches request = rule.matches request := rfl
    rw [claim?_eq_find?_offers, swapped, List.find?_append, List.find?_cons, same]
    cases rule.matches request <;> rfl

/-! ## Rules that are not called -/

/-- A rule is not called for what fits a rule that is asked before it. -/
theorem uncalled_of_fits {other : Site} {rule earlier : Rule m ρ α}
    (placed : stage.ruleAt? plugins site = some rule)
    (asked : stage.ruleAt? plugins other = some earlier) (before : other.Before site)
    (fits : earlier.Fits request) : stage.Uncalled plugins site request := by
  obtain ⟨_, _, -, claimed, swapped⟩ := exists_claim?_eq placed request
  obtain ⟨name, member⟩ := exists_mem_askedBefore_iff.mpr ⟨other, before, asked⟩
  have found : ((stage.askedBefore plugins site).find? (·.2.matches request)).isSome :=
    List.find?_isSome.mpr ⟨_, member, (earlier.matches_iff request).mpr fits⟩
  obtain ⟨offer, found⟩ := Option.isSome_iff_exists.mp found
  intro handler
  refine stage.dispatch_congr ?_
  rw [claimed, swapped, found, Option.some_or, Option.some_or]

/-- A rule is not called for what does not fit it. -/
theorem uncalled_of_not_fits {rule : Rule m ρ α}
    (placed : stage.ruleAt? plugins site = some rule) (unfit : ¬ rule.Fits request) :
    stage.Uncalled plugins site request := by
  obtain ⟨_, _, -, claimed, swapped⟩ := exists_claim?_eq placed request
  have unmatched : ¬ rule.matches request = true := mt (rule.matches_iff request).mp unfit
  intro handler
  refine stage.dispatch_congr ?_
  rw [claimed, swapped, if_neg unmatched, if_neg unmatched]

/-- A rule that is not the first to fit a request is not called for it. -/
theorem uncalled_of_not_isFirst {rule : Rule m ρ α}
    (placed : stage.ruleAt? plugins site = some rule)
    (later : ¬ stage.IsFirst plugins site request) : stage.Uncalled plugins site request := by
  by_cases taken : ∃ (other : Site) (earlier : Rule m ρ α), other.Before site ∧
      stage.ruleAt? plugins other = some earlier ∧ earlier.Fits request
  · obtain ⟨other, earlier, before, asked, fits⟩ := taken
    exact uncalled_of_fits placed asked before fits
  · refine uncalled_of_not_fits placed fun fits => later ⟨rule, placed, fits, ?_⟩
    intro other earlier before asked fits'
    exact taken ⟨other, earlier, before, asked, fits'⟩

/-! ## The rule that is called -/

variable [Monad m] {settle : String → Except String α → Except HookFailure (Handling α)}

/-- The first rule that fits a request is called for it. -/
theorem called_of_isFirst (settles : stage.Settles settle)
    (first : stage.IsFirst plugins site request) : stage.Called plugins settle site request := by
  obtain ⟨rule, placed, fits, none⟩ := first
  obtain ⟨plugin, _, attached, claimed, swapped⟩ := exists_claim?_eq placed request
  have unmatched : (stage.askedBefore plugins site).find? (·.2.matches request) = .none := by
    rw [List.find?_eq_none]
    intro offer member found
    obtain ⟨other, before, asked⟩ := exists_mem_askedBefore_iff.mp ⟨offer.1, member⟩
    exact none other offer.2 before asked ((offer.2.matches_iff request).mp found)
  have matched : rule.matches request = true := (rule.matches_iff request).mpr fits
  simp only [unmatched, if_pos matched, Option.none_or] at claimed swapped
  exact ⟨plugin, rule, attached, placed, settles.dispatch_eq claimed,
    fun handler => settles.dispatch_eq (swapped handler)⟩

end RuleStage

end AnyEngine

/-- A rule that fits the request is called if it is the only one. -/
example :
    let plugin : Plugin Id :=
      ⟨"a", none, none, [⟨.everything, none, fun _ => .ok { path := "x" }⟩], []⟩
    ¬ RuleStage.resolve.Uncalled [plugin] ⟨0, 0⟩ { specifier := "s" } := by
  intro plugin uncalled
  cases uncalled fun _ => .error "late"

end BundleHost
