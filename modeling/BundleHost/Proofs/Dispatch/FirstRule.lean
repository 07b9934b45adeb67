import BundleHost.Dispatch
import BundleHost.Proofs.Regex.Lawful

/-!
# The first rule that fits

A request belongs to the first rule, by the place of its plugin and then by its own, whose
restriction admits the namespace of the request and whose filter occurs in its subject. What this
rule answers is the answer of all plugins; attaching more plugins behind changes nothing for the
requests that an earlier one claims.

## Main statements

* `claim?_eq_some_iff`, `claim?_eq_none_iff` — which rule a request belongs to.
* `resolve_append`, `load_append` — what plugins answer that are attached behind others.
* `leftBiased` — all that can be said of the answers to both kinds of requests.
-/

namespace BundleHost

namespace Dispatch

/-! ## Answers -/

theorem checkResolve_of_invalid (plugin : String) {answer : ResolveAnswer} {space : String}
    (given : answer.space = some space) (invalid : Space.isValid space = false) :
    checkResolve plugin (.ok answer) = .error (.handlerFailed plugin .resolve
      ("returned invalid namespace '" ++ space ++ "'")) := by
  simp [checkResolve, given, Option.filter, invalid]

theorem checkResolve_of_valid (plugin : String) {answer : ResolveAnswer}
    (valid : ∀ space ∈ answer.space, Space.isValid space = true) :
    checkResolve plugin (.ok answer) = .ok (.handled plugin answer) := by
  have none : answer.space.filter (!Space.isValid ·) = none := by
    simpa [Option.filter_eq_none_iff] using valid
  simp [checkResolve, none]

theorem checkResolve_ne_unhandled (plugin : String) (response : Except String ResolveAnswer) :
    checkResolve plugin response ≠ .ok .unhandled := by
  unfold checkResolve
  split
  · simp
  · split <;> simp

/-- An answer that gets through is the handler's own, and its namespace can be one. -/
theorem checkResolve_eq_handled {plugin name : String} {response : Except String ResolveAnswer}
    {answer : ResolveAnswer} (h : checkResolve plugin response = .ok (.handled name answer)) :
    name = plugin ∧ response = .ok answer ∧ ∀ space ∈ answer.space, Space.isValid space = true := by
  cases response with
  | error message => simp [checkResolve] at h
  | ok given =>
    cases offending : given.space.filter (!Space.isValid ·) with
    | some space => simp [checkResolve, offending] at h
    | none =>
      simp only [checkResolve, offending, Except.ok.injEq, Handling.handled.injEq] at h
      obtain ⟨rfl, rfl⟩ := h
      exact ⟨rfl, rfl, by simpa [Option.filter_eq_none_iff] using offending⟩

section Later

variable {m : Type → Type} [Monad m]

/-- The result, or what comes `later` if the request was not handled. -/
def elseResolve (later : m (Except HookFailure (Handling ResolveAnswer))) :
    Except HookFailure (Handling ResolveAnswer) → m (Except HookFailure (Handling ResolveAnswer))
  | .ok .unhandled => later
  | result => pure result

/-- The result, or what comes `later` if the module was left to the disk or to nobody. -/
def elseLoad (later : m (Except HookFailure (Handling LoadAnswer))) :
    Except HookFailure (Handling LoadAnswer) → m (Except HookFailure (Handling LoadAnswer))
  | .ok .unhandled => later
  | .error (.unresolvedLoad _ _) => later
  | result => pure result

theorem elseResolve_checkResolve (later : m (Except HookFailure (Handling ResolveAnswer)))
    (plugin : String) (response : Except String ResolveAnswer) :
    elseResolve later (checkResolve plugin response) = pure (checkResolve plugin response) := by
  have handled := checkResolve_ne_unhandled plugin response
  unfold elseResolve
  split
  · contradiction
  · rfl

theorem elseLoad_checkLoad (later : m (Except HookFailure (Handling LoadAnswer)))
    (plugin : String) (response : Except String LoadAnswer) :
    elseLoad later (checkLoad plugin response) = pure (checkLoad plugin response) := by
  cases response <;> rfl

end Later

end Dispatch

section AnyEngine

variable [RegexEngine] {m : Type → Type} {ρ α : Type} [Addressed ρ]

/-- The restriction admits the namespace of the request, and the filter occurs in its subject. -/
def Rule.Fits (rule : Rule m ρ α) (request : ρ) : Prop :=
  Space.admits rule.restriction (Addressed.space request) = true ∧
    rule.filter.occursIn (Addressed.subject request) = true

theorem Rule.matches_iff (rule : Rule m ρ α) (request : ρ) :
    rule.matches request = true ↔ rule.Fits request := by
  simp [Rule.matches, Rule.Fits]

namespace Dispatch

/-- The rules of one stage in the order in which they are asked, with the names of their plugins. -/
def offers (rules : Plugin m → List (Rule m ρ α)) (plugins : List (Plugin m)) :
    List (String × Rule m ρ α) :=
  plugins.flatMap fun plugin => (rules plugin).map fun rule => (plugin.name, rule)

/-- `rule` fits the request, and none that is asked before it does. -/
def First (rules : Plugin m → List (Rule m ρ α)) (plugins : List (Plugin m)) (request : ρ)
    (plugin : String) (rule : Rule m ρ α) : Prop :=
  ∃ before after, offers rules plugins = before ++ (plugin, rule) :: after ∧
    rule.Fits request ∧ ∀ offer ∈ before, ¬ offer.2.Fits request

/-- No rule fits the request. -/
def Unclaimed (rules : Plugin m → List (Rule m ρ α)) (plugins : List (Plugin m))
    (request : ρ) : Prop :=
  ∀ offer ∈ offers rules plugins, ¬ offer.2.Fits request

section Claim

variable (rules : Plugin m → List (Rule m ρ α)) (request : ρ)

theorem claim?_eq_find?_offers (plugins : List (Plugin m)) :
    claim? rules plugins request = (offers rules plugins).find? (·.2.matches request) := by
  induction plugins with
  | nil => rfl
  | cons plugin rest ih =>
    have here : ((rules plugin).map fun rule => (plugin.name, rule)).find?
        (·.2.matches request) =
          ((rules plugin).find? (·.matches request)).map fun rule => (plugin.name, rule) := by
      rw [List.find?_map]
      rfl
    unfold claim? at ih ⊢
    unfold offers at ih ⊢
    rw [List.findSome?_cons, List.flatMap_cons, List.find?_append, here, ← ih]
    cases (rules plugin).find? (·.matches request) <;> rfl

theorem claim?_append (P Q : List (Plugin m)) :
    claim? rules (P ++ Q) request = (claim? rules P request).or (claim? rules Q request) := by
  unfold claim?
  rw [List.findSome?_append]

variable {rules request}

theorem claim?_eq_some_iff {plugins : List (Plugin m)} {plugin : String} {rule : Rule m ρ α} :
    claim? rules plugins request = some (plugin, rule) ↔
      First rules plugins request plugin rule := by
  rw [claim?_eq_find?_offers, List.find?_eq_some_iff_append]
  simp only [Rule.matches_iff, First, Bool.not_eq_true', ← Bool.not_eq_true]
  constructor
  · rintro ⟨fits, before, after, split, none⟩
    exact ⟨before, after, split, fits, none⟩
  · rintro ⟨before, after, split, fits, none⟩
    exact ⟨fits, before, after, split, none⟩

theorem claim?_eq_none_iff {plugins : List (Plugin m)} :
    claim? rules plugins request = none ↔ Unclaimed rules plugins request := by
  simp only [claim?_eq_find?_offers, List.find?_eq_none, Rule.matches_iff, Unclaimed]

end Claim

/-! ## Plugins behind others -/

section Append

variable [Monad m] [LawfulMonad m]

theorem resolve_of_first {plugins : List (Plugin m)} {request : ResolveRequest} {plugin : String}
    {rule : Rule m ResolveRequest ResolveAnswer}
    (h : First Plugin.resolveRules plugins request plugin rule) :
    resolve plugins request = checkResolve plugin <$> rule.handler request := by
  simp only [resolve, claim?_eq_some_iff.mpr h, bind_pure_comp]

theorem load_of_first {plugins : List (Plugin m)} {request : LoadRequest} {plugin : String}
    {rule : Rule m LoadRequest LoadAnswer}
    (h : First Plugin.loadRules plugins request plugin rule) :
    load plugins request = checkLoad plugin <$> rule.handler request := by
  simp only [load, claim?_eq_some_iff.mpr h, bind_pure_comp]

theorem resolve_append (P Q : List (Plugin m)) (request : ResolveRequest) :
    resolve (P ++ Q) request = resolve P request >>= elseResolve (resolve Q request) := by
  cases claimed : claim? Plugin.resolveRules P request with
  | none => simp [resolve, claim?_append, claimed, elseResolve]
  | some offer =>
    simp [resolve, claim?_append, claimed, elseResolve_checkResolve]

theorem load_append (P Q : List (Plugin m)) (request : LoadRequest) :
    load (P ++ Q) request = load P request >>= elseLoad (load Q request) := by
  cases claimed : claim? Plugin.loadRules P request with
  | none =>
    by_cases file : Space.isFile request.space = true <;>
      simp [load, claim?_append, claimed, elseLoad, file]
  | some offer =>
    simp [load, claim?_append, claimed, elseLoad_checkLoad]

end Append

/-! ## The whole of dispatch -/

/-- The answer to a resolve request is that of the first rule that fits, whose handler is the only
one that is called; a failure or an impossible namespace is the failure of its plugin. -/
structure ResolvesByFirstRule (m : Type → Type) [Monad m] : Prop where
  append (P Q : List (Plugin m)) (request : ResolveRequest) :
    resolve (P ++ Q) request = resolve P request >>= elseResolve (resolve Q request)
  first {plugins : List (Plugin m)} {request : ResolveRequest} {plugin : String}
    {rule : Rule m ResolveRequest ResolveAnswer} :
    First Plugin.resolveRules plugins request plugin rule →
      resolve plugins request = checkResolve plugin <$> rule.handler request
  unclaimed {plugins : List (Plugin m)} {request : ResolveRequest} :
    Unclaimed Plugin.resolveRules plugins request →
      resolve plugins request = pure (.ok .unhandled)
  failed (plugin message : String) :
    checkResolve plugin (.error message) = .error (.handlerFailed plugin .resolve message)
  invalid (plugin : String) {answer : ResolveAnswer} {space : String} :
    answer.space = some space → Space.isValid space = false →
      checkResolve plugin (.ok answer) = .error (.handlerFailed plugin .resolve
        ("returned invalid namespace '" ++ space ++ "'"))
  valid (plugin : String) {answer : ResolveAnswer} :
    (∀ space ∈ answer.space, Space.isValid space = true) →
      checkResolve plugin (.ok answer) = .ok (.handled plugin answer)

/-- The same for load requests. Without a rule that fits, a module of the two names for the disk is
left to the engine, and any other cannot be loaded. -/
structure LoadsByFirstRule (m : Type → Type) [Monad m] : Prop where
  append (P Q : List (Plugin m)) (request : LoadRequest) :
    load (P ++ Q) request = load P request >>= elseLoad (load Q request)
  first {plugins : List (Plugin m)} {request : LoadRequest} {plugin : String}
    {rule : Rule m LoadRequest LoadAnswer} :
    First Plugin.loadRules plugins request plugin rule →
      load plugins request = checkLoad plugin <$> rule.handler request
  unclaimed {plugins : List (Plugin m)} {request : LoadRequest} :
    Unclaimed Plugin.loadRules plugins request →
      load plugins request = pure (if request.space = "" ∨ request.space = "file"
        then .ok .unhandled else .error (.unresolvedLoad request.path request.space))
  failed (plugin message : String) :
    checkLoad plugin (.error message) = .error (.handlerFailed plugin .load message)
  loaded (plugin : String) (answer : LoadAnswer) :
    checkLoad plugin (.ok answer) = .ok (.handled plugin answer)

/-- Dispatch is a left-biased concatenation of the plugins, in every lawful monad. -/
theorem leftBiased {m : Type → Type} [Monad m] [LawfulMonad m] :
    ResolvesByFirstRule m ∧ LoadsByFirstRule m := by
  constructor
  · refine ⟨resolve_append, resolve_of_first, ?_, fun _ _ => rfl, ?_, ?_⟩
    · intro plugins request h
      simp only [resolve, claim?_eq_none_iff.mpr h]
    · intro plugin answer space
      exact checkResolve_of_invalid plugin
    · intro plugin answer
      exact checkResolve_of_valid plugin
  · refine ⟨load_append, load_of_first, ?_, fun _ _ => rfl, fun _ _ => rfl⟩
    intro plugins request h
    simp only [load, claim?_eq_none_iff.mpr h, Space.isFile_iff, Space.file]

end Dispatch

end AnyEngine

/-- Of two plugins with the same filter only the first is asked, even where it fails. -/
theorem Dispatch.leftBiased_two_plugins :
    let serve (name : String) (response : Except String ResolveAnswer) : Plugin Id :=
      ⟨name, none, none, [⟨.everything, none, fun _ => response⟩], []⟩
    resolve ([serve "a" (.ok { path := "x" })] ++ [serve "b" (.error "late")])
        { specifier := "s" } = .ok (.handled "a" { path := "x" }) ∧
      resolve ([serve "b" (.error "late")] ++ [serve "a" (.ok { path := "x" })])
        { specifier := "s" } = .error (.handlerFailed "b" .resolve "late") :=
  ⟨(leftBiased.1.append (m := Id) _ _ _).trans rfl, (leftBiased.1.append (m := Id) _ _ _).trans rfl⟩

end BundleHost
