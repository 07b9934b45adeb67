import BundleHost.Compiler
import BundleHost.Proofs.Bridge.Answer
import BundleHost.Proofs.Dispatch.Watched

/-!
# Who decides where a specifier leads

The host knows its own source text. About everything else the plugins have the first word, then
entry points are left to the engine, then the policy of externals has its say, and at last a module
that lies on no disk passes its imports on from its directory. Each of these is heard only where
those before it are silent.

## Main statement

`precedence_of_resolution` — a watched question takes the calls and leads to where its first
decider says, in any state and with any plugins and policy.
-/

namespace BundleHost

@[simp] theorem ResolveAnswer.external_target (answer : ResolveAnswer) (specifier : String)
    (dir : Option String) : (answer.target specifier dir).external = answer.external := by
  unfold ResolveAnswer.target
  cases answer.external <;> rfl

section AnyEngine

variable [RegexEngine] {World : Type}

/-- The bridge to the same plugins, watched. -/
def Bridge.watch (bridge : Bridge (StateM World)) : Bridge (Watched World) :=
  ⟨watchFrom 0 bridge.plugins, bridge.entry, bridge.externals⟩

/-- A module that lies on no disk: the source text, or one in a namespace of its own. -/
def Homeless (id : String) : Prop := id = ModuleRef.sourceId ∨ ModuleRef.isMarked id = true

namespace Bridge

variable (bridge : Bridge (StateM World)) (question : Question) (state : BridgeState)

/-- No resolve rule fits the question. -/
def Unhandled : Prop :=
  Dispatch.Unclaimed Plugin.resolveRules bridge.plugins (bridge.request question state)

/-- The handlers that are called for a question, and where it leads. There is one constructor for
every decider; it asks that those before it are silent. -/
inductive Decision (w : World) : List Event → Route → Prop
  | source (own : question.IsSource) : Decision w [] (.found ⟨ModuleRef.sourceId, false, none⟩)
  | refused {slot : Nat} {name : String} {rule : Rule (StateM World) ResolveRequest ResolveAnswer}
      {response : Except String ResolveAnswer} {w' : World} {failure : HookFailure}
      (foreign : ¬ question.IsSource)
      (first : Dispatch.First Plugin.resolveRules bridge.plugins (bridge.request question state)
        name rule)
      (stands : Dispatch.StandsAt bridge.plugins slot name rule)
      (called : StateT.run (rule.handler (bridge.request question state)) w = (response, w'))
      (failed : Dispatch.checkResolve name response = .error failure) :
      Decision w [.resolved slot (bridge.request question state) response] (.failed failure)
  | answered {slot : Nat} {name : String} {rule : Rule (StateM World) ResolveRequest ResolveAnswer}
      {w' : World} {answer : ResolveAnswer} (foreign : ¬ question.IsSource)
      (first : Dispatch.First Plugin.resolveRules bridge.plugins (bridge.request question state)
        name rule)
      (stands : Dispatch.StandsAt bridge.plugins slot name rule)
      (called : StateT.run (rule.handler (bridge.request question state)) w = (.ok answer, w'))
      (valid : ∀ space ∈ answer.space, Space.isValid space = true) :
      Decision w [.resolved slot (bridge.request question state) (.ok answer)]
        (.found (answer.target question.specifier (bridge.dir question state)))
  | entryPoint (foreign : ¬ question.IsSource) (silent : bridge.Unhandled question state)
      (root : question.importer = none) : Decision w [] .engine
  | external {id : String} (silent : bridge.Unhandled question state)
      (imported : question.importer = some id)
      (outside : bridge.externals.isExternal question.specifier = true) :
      Decision w [] (.found ⟨question.specifier, true, none⟩)
  | delegated {id dir : String} (silent : bridge.Unhandled question state)
      (imported : question.importer = some id)
      (inside : bridge.externals.isExternal question.specifier = false)
      (homeless : Homeless id) (known : state.dirOf bridge.entry id = some dir) :
      Decision w [] (.delegate (Path.join dir ModuleRef.sourceId))
  | left {id : String} (silent : bridge.Unhandled question state)
      (imported : question.importer = some id)
      (inside : bridge.externals.isExternal question.specifier = false)
      (unplaced : ¬ (Homeless id ∧ (state.dirOf bridge.entry id).isSome)) : Decision w [] .engine

variable {bridge question state} {w w' : World}

theorem Decision.source_iff {calls : List Event} {route : Route}
    (h : bridge.Decision question state w calls route) :
    calls = [] ∧ route = .found ⟨ModuleRef.sourceId, false, none⟩ ↔ question.IsSource := by
  cases h with
  | source own => simp [own]
  | refused foreign | answered foreign | entryPoint foreign => simp [foreign]
  | external _ imported | delegated _ imported | left _ imported =>
    simp [Question.IsSource, imported]

/-- Only a plugin makes an entry point external. -/
theorem Decision.external_root {calls : List Event} {resolved : ResolvedId}
    (h : bridge.Decision question state w calls (.found resolved))
    (root : question.importer = none) (outside : resolved.external = true) :
    ∃ slot answer, calls = [.resolved slot (bridge.request question state) (.ok answer)] ∧
      answer.external = true := by
  cases h with
  | source => cases outside
  | answered => exact ⟨_, _, rfl, by simpa using outside⟩
  | external _ imported => rw [root] at imported; cases imported

/-- A policy that lets no import in leaves all that plugins do not handle as it was written. -/
theorem Decision.external_of_everything {calls : List Event} {route : Route} {id : String}
    (h : bridge.Decision question state w calls route)
    (everything : ∀ specifier, bridge.externals.isExternal specifier = true)
    (imported : question.importer = some id) (silent : bridge.Unhandled question state) :
    route = .found ⟨question.specifier, true, none⟩ := by
  cases h with
  | source own => rw [own.1] at imported; cases imported
  | refused _ first | answered _ first =>
    exact absurd silent (Dispatch.not_unclaimed_of_first first)
  | entryPoint _ _ root => rw [root] at imported; cases imported
  | external => rfl
  | delegated _ _ inside | left _ _ inside => rw [everything] at inside; cases inside

/-! ## The deciders in turn -/

theorem decision_of_unhandled (foreign : ¬ question.IsSource)
    (silent : bridge.Unhandled question state) :
    bridge.Decision question state w [] (bridge.fallback question.specifier question.importer
      (bridge.dir question state)) := by
  cases imported : question.importer with
  | none => exact .entryPoint foreign silent imported
  | some id =>
    have dir : bridge.dir question state = state.dirOf bridge.entry id := by
      rw [Bridge.dir, imported, Option.bind_some]
    rw [dir]
    unfold fallback
    cases policy : bridge.externals.isExternal question.specifier with
    | true => exact .external silent imported policy
    | false =>
      cases known : state.dirOf bridge.entry id with
      | none => exact .left silent imported policy (by simp [known])
      | some dir =>
        by_cases homeless : Homeless id
        · have shape : (id = ModuleRef.sourceId || ModuleRef.isMarked id) = true := by
            simpa [Homeless] using homeless
          simp only [Bool.false_eq_true, if_false, shape, if_true]
          exact .delegated silent imported policy homeless known
        · have shape : (id = ModuleRef.sourceId || ModuleRef.isMarked id) = false := by
            simpa [Homeless] using homeless
          simp only [Bool.false_eq_true, if_false, shape]
          exact .left silent imported policy fun h => homeless h.1

theorem decision_of_first {slot : Nat} {name : String}
    {rule : Rule (StateM World) ResolveRequest ResolveAnswer}
    {response : Except String ResolveAnswer} (foreign : ¬ question.IsSource)
    (first : Dispatch.First Plugin.resolveRules bridge.plugins (bridge.request question state)
      name rule)
    (stands : Dispatch.StandsAt bridge.plugins slot name rule)
    (called : StateT.run (rule.handler (bridge.request question state)) w = (response, w')) :
    bridge.Decision question state w [.resolved slot (bridge.request question state) response]
      (bridge.settleResolve question.specifier question.importer
        (Dispatch.checkResolve name response) state).1 := by
  cases checked : Dispatch.checkResolve name response with
  | error failure => exact .refused foreign first stands called checked
  | ok handling =>
    cases handling with
    | unhandled => exact absurd checked (Dispatch.checkResolve_ne_unhandled name response)
    | handled plugin answer =>
      obtain ⟨-, rfl, valid⟩ := Dispatch.checkResolve_eq_handled checked
      exact .answered foreign first stands called valid

/-! ## Watched questions -/

theorem runs_resolve_of_source (own : question.IsSource) :
    Runs (bridge.watch.resolve question.specifier question.importer question.kind state) w []
      (.found ⟨ModuleRef.sourceId, false, none⟩, state) w := by
  rw [resolve_of_isSource bridge.watch own]
  exact .pure _ w

theorem runs_resolve_of_foreign (foreign : ¬ question.IsSource) {calls : List Event}
    {result : Except HookFailure (Handling ResolveAnswer)}
    (h : Runs (Dispatch.resolve (watchFrom 0 bridge.plugins) (bridge.request question state)) w
      calls result w') :
    Runs (bridge.watch.resolve question.specifier question.importer question.kind state) w calls
      (bridge.settleResolve question.specifier question.importer result state) w' := by
  have asked : bridge.watch.resolve question.specifier question.importer question.kind state = do
      let result ← Dispatch.resolve (watchFrom 0 bridge.plugins) (bridge.request question state)
      return bridge.settleResolve question.specifier question.importer result state := by
    unfold resolve
    exact if_neg foreign
  have settled := h.bind (f := fun result => pure
    (bridge.settleResolve question.specifier question.importer result state)) (.pure _ w')
  rwa [List.append_nil, ← asked] at settled

/-- Where a question leads that no plugin handles. -/
theorem route_of_unhandled (foreign : ¬ question.IsSource)
    (silent : bridge.Unhandled question state) :
    bridge.route question state w = bridge.fallback question.specifier question.importer
      (bridge.dir question state) := by
  have unwatched : StateT.run (Dispatch.resolve bridge.plugins (bridge.request question state)) w =
      (.ok .unhandled, w) := by
    unfold Dispatch.resolve
    rw [Dispatch.claim?_eq_none_iff.mpr silent]
    rfl
  exact route_of_run (run_resolve_of_dispatched foreign unwatched)

/-- Every question is decided by the first decider that is not silent, and takes the one call of a
handler that this decider is, if it is a plugin. So nothing is called and the source text is found
exactly if the question is about the source text; only a plugin makes an entry point external; and
in a transform all imports that no plugin handles are external as written. -/
theorem precedence_of_resolution (bridge : Bridge (StateM World)) (question : Question)
    (state : BridgeState) (w : World) :
    ∃ calls route state' w',
      Runs (bridge.watch.resolve question.specifier question.importer question.kind state) w calls
        (route, state') w' ∧
      bridge.route question state w = route ∧
      bridge.Decision question state w calls route ∧
      (calls = [] ∧ route = .found ⟨ModuleRef.sourceId, false, none⟩ ↔ question.IsSource) ∧
      (∀ resolved, question.importer = none → route = .found resolved →
        resolved.external = true →
          ∃ slot answer, calls = [.resolved slot (bridge.request question state) (.ok answer)] ∧
            answer.external = true) ∧
      ∀ processDir settings source id,
        bridge = (Plan.forTransform processDir settings source).bridge bridge.plugins →
          question.importer = some id → bridge.Unhandled question state →
            route = .found ⟨question.specifier, true, none⟩ := by
  -- The decision settles everything that is said of the calls and the route.
  suffices ∃ calls route state' w',
      Runs (bridge.watch.resolve question.specifier question.importer question.kind state) w calls
        (route, state') w' ∧
      bridge.route question state w = route ∧ bridge.Decision question state w calls route by
    obtain ⟨calls, route, state', w', runs, unwatched, decision⟩ := this
    refine ⟨calls, route, state', w', runs, unwatched, decision, decision.source_iff, ?_, ?_⟩
    · rintro resolved root rfl outside
      exact decision.external_root root outside
    · intro processDir settings source id plan imported silent
      refine decision.external_of_everything (fun specifier => ?_) imported silent
      rw [plan]
      rfl
  by_cases own : question.IsSource
  · exact ⟨[], _, _, w, runs_resolve_of_source own,
      route_of_run (run_resolve_of_isSource own), .source own⟩
  cases claimed : Dispatch.claim? Plugin.resolveRules bridge.plugins
      (bridge.request question state) with
  | none =>
    have silent : bridge.Unhandled question state := Dispatch.claim?_eq_none_iff.mp claimed
    exact ⟨[], _, _, w, runs_resolve_of_foreign own (Dispatch.runs_resolve_of_unclaimed silent w),
      route_of_unhandled own silent, decision_of_unhandled own silent⟩
  | some offer =>
    obtain ⟨name, rule⟩ := offer
    have first := Dispatch.claim?_eq_some_iff.mp claimed
    obtain ⟨response, w', called⟩ : ∃ response w',
        StateT.run (rule.handler (bridge.request question state)) w = (response, w') :=
      ⟨_, _, rfl⟩
    obtain ⟨slot, stands, runs⟩ := Dispatch.runs_resolve_of_first first called
    have unwatched :
        StateT.run (Dispatch.resolve bridge.plugins (bridge.request question state)) w =
          (Dispatch.checkResolve name response, w') := by
      rw [Dispatch.resolve_of_first first, StateT.run_map, called]
      rfl
    exact ⟨_, _, _, w', runs_resolve_of_foreign own runs,
      route_of_run (run_resolve_of_dispatched own unwatched),
      decision_of_first own first stands called⟩

end Bridge

end AnyEngine

/-- In a transform, the only rule is for another namespace: the import stays as it was written. -/
theorem Bridge.precedence_of_resolution_transform :
    let restricted : Plugin (StateM Unit) :=
      ⟨"web", none, none, [⟨.everything, some "web", fun _ => pure (.error "late")⟩], []⟩
    let bridge := (Plan.forTransform "/" {} "text").bridge [restricted]
    let question : Question := ⟨"react", some ModuleRef.sourceId, .importStatement⟩
    bridge.Unhandled question {} ∧
      bridge.route question {} () = .found ⟨"react", true, none⟩ := by
  intro restricted bridge question
  have silent : bridge.Unhandled question {} := by
    intro offer member fits
    obtain rfl : offer = ("web", _) := List.mem_singleton.mp member
    exact absurd fits.1 (by decide)
  obtain ⟨_, route, _, _, _, leads, -, -, -, transform⟩ :=
    precedence_of_resolution bridge question {} ()
  exact ⟨silent, leads.trans (transform "/" {} "text" _ rfl rfl silent)⟩

end BundleHost
