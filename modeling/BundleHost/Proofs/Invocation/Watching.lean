import BundleHost.Invocation
import Mathlib.Control.Monad.Writer

/-!
# Watching an invocation

Handlers and engines act on a world of any kind. Watched, they also tell what happens: every call
of a handler with its response, and every run of an engine with all that happens inside it. A
watched plugin has the filters, restrictions and names of the plugin itself, so that the host
cannot tell the two apart.
-/

namespace BundleHost

/-- What happens between a host, its plugins and its engine. Plugins are told apart by their place
in the order of attachment. -/
inductive Event where
  | started (slot : Nat) (response : Except String Unit)
  | resolved (slot : Nat) (request : ResolveRequest) (response : Except String ResolveAnswer)
  | loaded (slot : Nat) (request : LoadRequest) (response : Except String LoadAnswer)
  | engine (inside : List Event) (outcome : Except RunError RunResult)
  | ended (slot : Nat) (report : EndReport) (response : Except String Unit)

/-- Actions on a world that tell events. What they told cannot be taken back. -/
abbrev Watched (World : Type) : Type → Type := WriterT (List Event) (StateM World)

variable {World α β ρ σ : Type}

/-- From the world `w` the action leads to the world `w'` and returns `a`; `events` happen. -/
def Runs (x : Watched World α) (w : World) (events : List Event) (a : α) (w' : World) : Prop :=
  StateT.run x.run w = ((a, events), w')

theorem Runs.pure (a : α) (w : World) : Runs (pure a : Watched World α) w [] a w := rfl

theorem Runs.bind {x : Watched World α} {f : α → Watched World β} {w w₁ w₂ : World}
    {first later : List Event} {a : α} {b : β} (hx : Runs x w first a w₁)
    (hf : Runs (f a) w₁ later b w₂) : Runs (x >>= f) w (first ++ later) b w₂ := by
  let after (p : (α × List Event) × World) : (β × List Event) × World :=
    let q := (f p.1.1).run.run p.2
    ((q.1.1, p.1.2 ++ q.1.2), q.2)
  change after (x.run.run w) = ((b, first ++ later), w₂)
  rw [show x.run.run w = ((a, first), w₁) from hx]
  change (let q := (f a).run.run w₁; ((q.1.1, first ++ q.1.2), q.2)) = ((b, first ++ later), w₂)
  rw [show (f a).run.run w₁ = ((b, later), w₂) from hf]

/-- Every action runs to an end. -/
theorem exists_runs (x : Watched World α) (w : World) :
    ∃ events a w', Runs x w events a w' := ⟨_, _, _, rfl⟩

/-! ## Watched handlers -/

def watchHandler (event : ρ → Except String α → Event) (handler : Handler (StateM World) ρ α) :
    Handler (Watched World) ρ α := fun request => WriterT.mk do
  let response ← handler request
  return (response, [event request response])

/-- A watched handler tells the one event of its call. -/
theorem runs_watchHandler (event : ρ → Except String α → Event)
    (handler : Handler (StateM World) ρ α) (request : ρ) (w : World) :
    ∃ response w', Runs (watchHandler event handler request) w [event request response]
      response w' :=
  ⟨_, _, rfl⟩

variable [RegexEngine]

def Rule.watch (event : ρ → Except String α → Event) (rule : Rule (StateM World) ρ α) :
    Rule (Watched World) ρ α :=
  ⟨rule.filter, rule.restriction, watchHandler event rule.handler⟩

/-- The plugin attached at a place, watched. -/
def Plugin.watch (slot : Nat) (plugin : Plugin (StateM World)) : Plugin (Watched World) where
  name := plugin.name
  onStart := plugin.onStart.map (watchHandler fun _ => .started slot)
  onEnd := plugin.onEnd.map (watchHandler (.ended slot))
  resolveRules := plugin.resolveRules.map (·.watch (.resolved slot))
  loadRules := plugin.loadRules.map (·.watch (.loaded slot))

/-- Attached plugins from a place on, watched. -/
def watchFrom (slot : Nat) : List (Plugin (StateM World)) → List (Plugin (Watched World))
  | [] => []
  | plugin :: rest => plugin.watch slot :: watchFrom (slot + 1) rest

/-- A run of the engine as one event, which contains what the engine calls forth. -/
def Engine.watch (engine : Engine (Watched World) σ) : Engine (Watched World) σ :=
  fun input => WriterT.mk do
    let (outcome, inside) ← (engine input).run
    return (outcome, [.engine inside outcome])

theorem Runs.watch {engine : Engine (Watched World) σ} {input : EngineInput (Watched World) σ}
    {w w' : World} {inside : List Event} {outcome : Except RunError RunResult}
    (h : Runs (engine input) w inside outcome w') :
    Runs (engine.watch input) w [.engine inside outcome] outcome w' := by
  change (let p := (engine input).run.run w; ((p.1.1, [Event.engine p.1.2 p.1.1]), p.2)) = _
  rw [show (engine input).run.run w = ((outcome, inside), w') from h]

/-! ## Overlaps of watched plugins -/

theorem entriesFrom_watchFrom {ρ α : Type}
    (rules : Plugin (StateM World) → List (Rule (StateM World) ρ α))
    {watched : Plugin (Watched World) → List (Rule (Watched World) ρ α)}
    (event : Nat → ρ → Except String α → Event)
    (same : ∀ slot plugin, watched (plugin.watch slot) = (rules plugin).map (·.watch (event slot)))
    (slot place : Nat) (plugins : List (Plugin (StateM World))) :
    Overlap.entriesFrom watched place (watchFrom slot plugins) =
      Overlap.entriesFrom rules place plugins := by
  induction plugins generalizing slot place with
  | nil => rfl
  | cons plugin rest ih =>
    simp only [watchFrom, Overlap.entriesFrom, ih, same, List.map_map]
    rfl

theorem find_watchFrom (slot : Nat) (plugins : List (Plugin (StateM World))) :
    Overlap.find (watchFrom slot plugins) = Overlap.find plugins := by
  unfold Overlap.find
  rw [entriesFrom_watchFrom Plugin.resolveRules .resolved fun _ _ => rfl,
    entriesFrom_watchFrom Plugin.loadRules .loaded fun _ _ => rfl]

end BundleHost
