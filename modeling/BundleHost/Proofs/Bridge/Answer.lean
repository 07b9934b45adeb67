import BundleHost.Bridge.Basic
import BundleHost.Proofs.Dispatch.FirstRule

/-!
# Answers to the engine's questions

The engine asks the bridge where a specifier leads and what a module contains. Handlers act on a
world of any kind, so that a plugin may answer the same question differently each time.
-/

namespace BundleHost

/-- The question where a specifier leads. -/
structure Question where
  specifier : String
  /-- The identifier of the importing module; entry points have none. -/
  importer : Option String
  kind : ResolveKind
  deriving DecidableEq, Repr

/-- The question is about the source text itself, and is not put to the plugins. -/
def Question.IsSource (question : Question) : Prop :=
  question.importer = none ∧ question.specifier = ModuleRef.sourceId

namespace Bridge

variable [RegexEngine] {World : Type} (bridge : Bridge (StateM World)) (question : Question)
  (state : BridgeState)

/-- The directory that relative answers are taken from. -/
def dir : Option String := question.importer.bind (state.dirOf bridge.entry)

/-- What the plugins are asked. -/
abbrev request : ResolveRequest :=
  bridge.resolveRequest state question.specifier question.importer question.kind

/-- Where a specifier leads in a state and a world. -/
def route (w : World) : Route :=
  (StateT.run (bridge.resolve question.specifier question.importer question.kind state) w).1.1

/-- In a state and a world, a plugin gives this answer to the question. -/
def Answers (w : World) (answer : ResolveAnswer) : Prop :=
  ¬ question.IsSource ∧ ∃ plugin w',
    StateT.run (Dispatch.resolve bridge.plugins (bridge.request question state)) w =
      (.ok (.handled plugin answer), w')

variable {bridge question state} {w w' : World} {answer : ResolveAnswer}

theorem resolve_of_not_isSource (h : ¬ question.IsSource) :
    bridge.resolve question.specifier question.importer question.kind state = do
      let result ← Dispatch.resolve bridge.plugins (bridge.request question state)
      return bridge.settleResolve question.specifier question.importer result state := by
  unfold resolve
  exact if_neg h

/-- In any monad the bridge finds the source text by itself. -/
theorem resolve_of_isSource {m : Type → Type} [Monad m] (bridge : Bridge m)
    (h : question.IsSource) :
    bridge.resolve question.specifier question.importer question.kind state =
      pure (.found ⟨ModuleRef.sourceId, false, none⟩, state) := by
  unfold resolve
  exact if_pos h

theorem run_resolve_of_isSource (own : question.IsSource) :
    StateT.run (bridge.resolve question.specifier question.importer question.kind state) w =
      ((.found ⟨ModuleRef.sourceId, false, none⟩, state), w) := by
  rw [resolve_of_isSource bridge own]
  rfl

/-- What the plugins come to is settled in the state in which they were asked. -/
theorem run_resolve_of_dispatched (foreign : ¬ question.IsSource)
    {result : Except HookFailure (Handling ResolveAnswer)}
    (dispatched : StateT.run
      (Dispatch.resolve bridge.plugins (bridge.request question state)) w = (result, w')) :
    StateT.run (bridge.resolve question.specifier question.importer question.kind state) w =
      (bridge.settleResolve question.specifier question.importer result state, w') := by
  rw [resolve_of_not_isSource foreign, StateT.run_bind]
  rw [dispatched]
  rfl

theorem route_of_run {reached : Route} {state' : BridgeState}
    (h : StateT.run (bridge.resolve question.specifier question.importer question.kind state) w =
      ((reached, state'), w')) : bridge.route question state w = reached := by
  rw [route, h]

/-- An answer of a plugin is followed. -/
theorem Answers.route_eq (h : bridge.Answers question state w answer) :
    bridge.route question state w =
      .found (answer.target question.specifier (bridge.dir question state)) := by
  obtain ⟨asked, plugin, w', answered⟩ := h
  exact route_of_run (run_resolve_of_dispatched asked answered)

/-- The namespace of an answer can be one: dispatch has looked at it. -/
theorem Answers.isValid_space (h : bridge.Answers question state w answer) :
    ∀ space ∈ answer.space, Space.isValid space = true := by
  obtain ⟨-, plugin, w', answered⟩ := h
  unfold Dispatch.resolve at answered
  split at answered
  next => cases answered
  next name rule _ =>
    have checked : Dispatch.checkResolve name (rule.handler (bridge.request question state) w).1 =
        .ok (.handled plugin answer) := congrArg Prod.fst answered
    exact (Dispatch.checkResolve_eq_handled checked).2.2

theorem load_of_ne_sourceId {id : String} (h : id ≠ ModuleRef.sourceId) (state : BridgeState) :
    bridge.load id state = do
      let result ← Dispatch.load bridge.plugins
        ⟨(ModuleRef.ofId id).path, (ModuleRef.ofId id).space⟩
      return settleLoad id result state := by
  unfold load
  exact if_neg h

theorem load_sourceId (state : BridgeState) :
    bridge.load ModuleRef.sourceId state =
      pure (.contents bridge.entry.source (.ofLoader bridge.entry.loader), state) := by
  unfold load
  exact if_pos rfl

end Bridge

end BundleHost
